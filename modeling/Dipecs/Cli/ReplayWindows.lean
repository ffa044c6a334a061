import Dipecs.Cli.ReplayDeterminism
import Dipecs.Library.Windowing

/-! Which windows a replay makes of a trace. -/

namespace Dipecs.Cli.Replay

open Dipecs.Spec Dipecs.Core Dipecs.Agent Dipecs.Library

section
variable {F : Type} [LinearOrder F] [Add F] [Sub F] [Neg F] [OfScientific F]
  {cfg : ReplayConfig} {s : ReplayState}

/-! ### Windows of a run -/

def written (cfg : ReplayConfig) : Machine ReplayState (ReplayInput F) Json := ⟨step cfg⟩

def closing (cfg : ReplayConfig) :
    Machine ReplayState (ReplayInput F) StructuredContext where
  step s x := ((step cfg s x).1, (closedWindow cfg s x).toList)

def spanMs (cfg : ReplayConfig) : Int := cfg.windowSecs.toNat * 1000

omit [LinearOrder F] [Add F] [Sub F] [Neg F] [OfScientific F] in
theorem isExpired_iff (hfits : cfg.windowSecs.toNat * 1000 < 2 ^ 63) (agg : WindowAggregator)
    (hsecs : agg.windowSecs = cfg.windowSecs) (capturedAtMs : Int) :
    agg.isExpired capturedAtMs = true ↔ agg.windowStartMs + spanMs cfg ≤ capturedAtMs := by
  have hspan : (agg.windowSecs * 1000).toInt64.toInt = spanMs cfg := by
    rw [hsecs, ← UInt64.ofNat_toNat (x := cfg.windowSecs * 1000), UInt64.toInt64_ofNat',
      Int64.toInt_ofNat_of_lt] <;> rw [UInt64.toNat_mul]
    · exact congrArg Nat.cast (Nat.mod_eq_of_lt (hfits.trans (by decide)))
    · exact (Nat.mod_le _ _).trans_lt hfits
  rw [WindowAggregator.isExpired, decide_eq_true_eq, hspan, satSub, spanMs]
  omega

structure Shows (ctx : StructuredContext) (w : Window Int SanitizedEvent) : Prop where
  start : ctx.windowStartMs = w.start
  finish : ctx.windowEndMs = w.finish
  events : ctx.events = w.items.map Prod.snd

structure Open (cfg : ReplayConfig) (s : ReplayState) (start : Int)
    (items : List (Int × SanitizedEvent)) : Prop where
  aggregator : s.aggregator = some ⟨items.map Prod.snd, cfg.windowSecs, start⟩
  nonempty : items ≠ []
  failed : s.failed = false

omit [LinearOrder F] [Add F] [Sub F] [Neg F] [OfScientific F] in
theorem close_items {items : List (Int × SanitizedEvent)} (hne : items ≠ []) (windowSecs : UInt64)
    (start now : Int) (draw : WindowDraw) :
    ∃ ctx, WindowAggregator.close ⟨items.map Prod.snd, windowSecs, start⟩ now draw =
        (some ctx, ⟨[], windowSecs, now⟩) ∧ Shows ctx ⟨start, now, items⟩ :=
  ⟨_, WindowAggregator.close_of_nonempty (by simpa using hne) now draw, rfl, rfl, rfl⟩

theorem open_closes (hstage : cfg.stage.includes .context = true)
    (hfits : cfg.windowSecs.toNat * 1000 < 2 ^ 63) {start : Int}
    {items : List (Int × SanitizedEvent)} (hopen : Open cfg s start items) {x : ReplayInput F}
    {event : Int × SanitizedEvent} (hevent : ingestedOf cfg x = some event) {text : String}
    (hx : x.item = .line text) (hdue : start + spanMs cfg ≤ event.1) :
    (∃ ctx, closedWindow cfg s x = some ctx ∧ Shows ctx ⟨start, event.1, items⟩) ∧
      Open cfg (step cfg s x).1 event.1 [event] := by
  have htakes := step_event hopen.failed hstage hevent
  obtain ⟨ctx, hclose, hshows⟩ :=
    close_items hopen.nonempty cfg.windowSecs start event.1 x.draw.window
  have hexpired := (isExpired_iff hfits ⟨items.map Prod.snd, cfg.windowSecs, start⟩ rfl
    event.1).mpr hdue
  constructor
  · refine ⟨ctx, ?_, hshows⟩
    simp only [closedWindow, hopen.failed, hx, hevent, hopen.aggregator, Option.bind_some,
      Option.getD_some, dueWindow, hexpired, hclose, if_true, Bool.false_eq_true, if_false]
  · refine ⟨?_, List.cons_ne_nil _ _, by rw [htakes.failed]; exact hopen.failed⟩
    rw [htakes.aggregator]
    simp only [numbered, hopen.aggregator, Option.getD_some, rolled, hexpired, hclose, if_true]
    rfl

theorem open_collects (hstage : cfg.stage.includes .context = true)
    (hfits : cfg.windowSecs.toNat * 1000 < 2 ^ 63) {start : Int}
    {items : List (Int × SanitizedEvent)} (hopen : Open cfg s start items) {x : ReplayInput F}
    {event : Int × SanitizedEvent} (hevent : ingestedOf cfg x = some event) {text : String}
    (hx : x.item = .line text) (hdue : ¬start + spanMs cfg ≤ event.1) :
    closedWindow cfg s x = none ∧ Open cfg (step cfg s x).1 start (items ++ [event]) := by
  have htakes := step_event hopen.failed hstage hevent
  have hexpired := (isExpired_iff hfits ⟨items.map Prod.snd, cfg.windowSecs, start⟩ rfl
    event.1).not.mpr hdue
  constructor
  · simp only [closedWindow, hopen.failed, hx, hevent, hopen.aggregator, Option.bind_some,
      Option.getD_some, dueWindow, hexpired, Bool.false_eq_true, if_false]
  · refine ⟨?_, by simp, by rw [htakes.failed]; exact hopen.failed⟩
    rw [htakes.aggregator]
    simp only [numbered, hopen.aggregator, Option.getD_some, rolled, hexpired, if_false,
      WindowAggregator.push, List.map_append, List.map_singleton, Bool.false_eq_true]

theorem first_opens (hstage : cfg.stage.includes .context = true)
    (hfits : cfg.windowSecs.toNat * 1000 < 2 ^ 63) (hpos : 1 ≤ cfg.windowSecs.toNat)
    (haggregator : s.aggregator = none) (hfailed : s.failed = false) {x : ReplayInput F}
    {event : Int × SanitizedEvent} (hevent : ingestedOf cfg x = some event) {text : String}
    (hx : x.item = .line text) :
    closedWindow cfg s x = none ∧ Open cfg (step cfg s x).1 event.1 [event] := by
  have htakes := step_event hfailed hstage hevent
  have hexpired := (isExpired_iff hfits (.new cfg.windowSecs event.1) rfl event.1).not.mpr
    (by change ¬event.1 + spanMs cfg ≤ event.1; unfold spanMs; omega)
  constructor
  · simp only [closedWindow, hfailed, hx, hevent, haggregator, Option.bind_some,
      Option.getD_none, dueWindow, hexpired, Bool.false_eq_true, if_false]
  · refine ⟨?_, List.cons_ne_nil _ _, by rw [htakes.failed]; exact hfailed⟩
    rw [htakes.aggregator]
    simp only [numbered, haggregator, Option.getD_none, rolled, hexpired, if_false,
      Bool.false_eq_true]
    rfl

theorem closing_failed_iff (hstage : cfg.stage.includes .context = true) (s : ReplayState)
    (xs : List (ReplayInput F)) :
    ((closing cfg).run s xs).1.failed = true ↔
      s.failed = true ∨ ∃ x ∈ xs, x.item = .unreadable := by
  induction xs generalizing s with
  | nil => simp
  | cons x xs ih =>
    rw [Machine.run_cons, ih]
    change (step cfg s x).1.failed = true ∨ _ ↔ _
    rw [step_failed_iff hstage, List.exists_mem_cons_iff, or_assoc]

/-! ### Runs -/

def latest (lastCapturedAtMs : Int) (events : List (Int × SanitizedEvent)) : Int :=
  events.foldl (fun t event => max t event.1) lastCapturedAtMs

omit [LinearOrder F] [Add F] [Sub F] [Neg F] [OfScientific F] in
theorem closedWindow_end {start : Int} {items : List (Int × SanitizedEvent)}
    (hopen : Open cfg s start items) {x : ReplayInput F} (hx : x.item = .endOfTrace) :
    ∃ ctx, closedWindow cfg s x = some ctx ∧ Shows ctx ⟨start, s.lastCapturedAtMs, items⟩ := by
  obtain ⟨ctx, hclose, hshows⟩ :=
    close_items hopen.nonempty cfg.windowSecs start s.lastCapturedAtMs x.draw.window
  refine ⟨ctx, ?_, hshows⟩
  simp only [closedWindow, hopen.failed, hx, hopen.aggregator, Option.bind_some, hclose,
    Bool.false_eq_true, if_false]

theorem closing_open (hstage : cfg.stage.includes .context = true)
    (hfits : cfg.windowSecs.toNat * 1000 < 2 ^ 63) {last : ReplayInput F}
    (hlast : last.item = .endOfTrace) {xs : List (ReplayInput F)}
    (hxs : ∀ x ∈ xs, ∃ text, x.item = .line text) {start : Int}
    {items : List (Int × SanitizedEvent)} (hopen : Open cfg s start items) :
    List.Forall₂ Shows ((closing cfg).run s (xs ++ [last])).2
      (Windowing.windowsFrom (spanMs cfg)
        (latest s.lastCapturedAtMs (xs.filterMap (ingestedOf cfg))) start items
        (xs.filterMap (ingestedOf cfg))) := by
  induction xs generalizing s start items with
  | nil =>
    obtain ⟨ctx, hclosed, hshows⟩ := closedWindow_end hopen hlast
    rw [List.nil_append, Machine.run_cons]
    simp only [closing, hclosed]
    exact .cons hshows .nil
  | cons x xs ih =>
    obtain ⟨⟨text, hx⟩, hxs⟩ := List.forall_mem_cons.mp hxs
    rw [List.cons_append, Machine.run_cons]
    cases hevent : ingestedOf cfg x with
    | none =>
      have hquiet := step_quiet hopen.failed hx hevent
      have hnone : closedWindow cfg s x = none := by
        rw [closedWindow_line hopen.failed hx, hevent]
        rfl
      have hrest := ih hxs (s := (step cfg s x).1) ⟨hquiet.aggregator.trans hopen.aggregator,
        hopen.nonempty, hquiet.failed.trans hopen.failed⟩
      rw [hquiet.lastCapturedAtMs] at hrest
      rw [List.filterMap_cons_none hevent]
      simp only [closing, hnone]
      exact hrest
    | some event =>
      have hlatest := (step_event hopen.failed hstage hevent).lastCapturedAtMs
      rw [List.filterMap_cons_some hevent, Windowing.windowsFrom]
      split
      · obtain ⟨⟨ctx, hclosed, hshows⟩, hnext⟩ := open_closes hstage hfits hopen hevent hx ‹_›
        have hrest := ih hxs hnext
        rw [hlatest] at hrest
        simp only [closing, hclosed]
        exact .cons hshows hrest
      · obtain ⟨hnone, hnext⟩ := open_collects hstage hfits hopen hevent hx ‹_›
        have hrest := ih hxs hnext
        rw [hlatest] at hrest
        simp only [closing, hnone]
        exact hrest

theorem closing_fresh (hstage : cfg.stage.includes .context = true)
    (hfits : cfg.windowSecs.toNat * 1000 < 2 ^ 63) (hpos : 1 ≤ cfg.windowSecs.toNat)
    (last : ReplayInput F) (hlast : last.item = .endOfTrace) {xs : List (ReplayInput F)}
    (hxs : ∀ x ∈ xs, ∃ text, x.item = .line text) (haggregator : s.aggregator = none)
    (hfailed : s.failed = false) :
    List.Forall₂ Shows ((closing cfg).run s (xs ++ [last])).2
      (Windowing.windows (spanMs cfg)
        (latest s.lastCapturedAtMs (xs.filterMap (ingestedOf cfg)))
        (xs.filterMap (ingestedOf cfg))) := by
  induction xs generalizing s with
  | nil =>
    have hnone : closedWindow cfg s last = none := by
      simp only [closedWindow, hfailed, hlast, haggregator, Option.bind_none, Bool.false_eq_true,
        if_false]
    rw [List.nil_append, Machine.run_cons]
    simp only [closing, hnone]
    exact .nil
  | cons x xs ih =>
    obtain ⟨⟨text, hx⟩, hxs⟩ := List.forall_mem_cons.mp hxs
    rw [List.cons_append, Machine.run_cons]
    cases hevent : ingestedOf cfg x with
    | none =>
      have hquiet := step_quiet hfailed hx hevent
      have hnone : closedWindow cfg s x = none := by
        rw [closedWindow_line hfailed hx, hevent]
        rfl
      have hrest := ih hxs (s := (step cfg s x).1) (hquiet.aggregator.trans haggregator)
        (hquiet.failed.trans hfailed)
      rw [hquiet.lastCapturedAtMs] at hrest
      rw [List.filterMap_cons_none hevent]
      simp only [closing, hnone]
      exact hrest
    | some event =>
      obtain ⟨hnone, hnext⟩ := first_opens hstage hfits hpos haggregator hfailed hevent hx
      have hrest := closing_open hstage hfits hlast hxs hnext
      rw [(step_event hfailed hstage hevent).lastCapturedAtMs] at hrest
      rw [List.filterMap_cons_some hevent]
      simp only [closing, hnone]
      exact hrest

/-! ### Accounts -/

structure Accounted (cfg : ReplayConfig) (read : List (ReplayInput F))
    (closed : List StructuredContext) (counts : LineCounts) : Prop where
  lines : counts.linesTotal =
    counts.eventsIngested + counts.linesSkippedNoRawEvent + counts.linesParseError
  events : counts.eventsIngested = UInt64.ofNat (read.filterMap (ingestedOf cfg)).length
  windows : counts.windowsClosed = UInt64.ofNat closed.length

omit [LinearOrder F] [Add F] [Sub F] [Neg F] [OfScientific F] in
theorem Accounted.concat {read : List (ReplayInput F)} {closed : List StructuredContext}
    {counts counts' : LineCounts} (h : Accounted cfg read closed counts) (x : ReplayInput F)
    (ctx : Option StructuredContext)
    (hlines : counts'.linesTotal =
      counts'.eventsIngested + counts'.linesSkippedNoRawEvent + counts'.linesParseError)
    (hevents : counts'.eventsIngested =
      counts.eventsIngested + UInt64.ofNat (ingestedOf cfg x).toList.length)
    (hwindows : counts'.windowsClosed = counts.windowsClosed + UInt64.ofNat ctx.toList.length) :
    Accounted cfg (read ++ [x]) (closed ++ ctx.toList) counts' := by
  refine ⟨hlines, ?_, ?_⟩
  · have hone : ([x].filterMap (ingestedOf cfg)) = (ingestedOf cfg x).toList := by
      cases hevent : ingestedOf cfg x <;> simp [hevent]
    rw [hevents, h.events, List.filterMap_append, hone, List.length_append, UInt64.ofNat_add]
  · rw [hwindows, h.windows, List.length_append, UInt64.ofNat_add]

theorem step_accounted (hstage : cfg.stage.includes .context = true)
    {read : List (ReplayInput F)} {closed : List StructuredContext}
    (h : s.failed = false → Accounted cfg read closed (lineCounts s.summary))
    (x : ReplayInput F) (hnext : (step cfg s x).1.failed = false) :
    Accounted cfg (read ++ [x]) (closed ++ (closedWindow cfg s x).toList)
      (lineCounts (step cfg s x).1.summary) := by
  have hfailed : s.failed = false := by
    rw [Bool.eq_false_iff] at hnext ⊢
    exact fun hfailed => hnext ((step_failed_iff hstage s x).mpr (.inl hfailed))
  have haccounted := h hfailed
  have hlines : s.summary.linesTotal = s.summary.eventsIngested +
    s.summary.linesSkippedNoRawEvent + s.summary.linesParseError := haccounted.lines
  obtain ⟨text, event, hx, hevent⟩ | ⟨text, hx, hevent⟩ | ⟨hx, hevent⟩ | ⟨hx, hevent⟩ :=
    ingestedOf_cases cfg x
  · rw [(step_event hfailed hstage hevent).counts, closedWindow_line hfailed hx]
    refine haccounted.concat x _ ?_ (by rw [hevent]; rfl) (by rw [hevent]; rfl)
    simp only [numbered, lineCounts, hlines]
    ac_rfl
  · have hnone : closedWindow cfg s x = none := by
      rw [closedWindow_line hfailed hx, hevent]
      rfl
    rw [hnone]
    obtain hcounts | hcounts | hcounts := (step_quiet hfailed hx hevent).counts
    all_goals
      rw [hcounts]
      refine haccounted.concat x none ?_ (by simp [hevent]) (by simp)
      simp only [lineCounts, hlines]
    all_goals ac_rfl
  · rw [step_unreadable hfailed hx] at hnext
    cases hnext
  · rw [(step_end hfailed hstage hx).1]
    exact haccounted.concat x _ hlines (by simp [hevent, lineCounts]) rfl

theorem closing_accounted (hstage : cfg.stage.includes .context = true)
    (xs : List (ReplayInput F)) (hend : ((closing cfg).run start xs).1.failed = false) :
    Accounted cfg xs ((closing cfg).run start xs).2
      (lineCounts ((closing cfg).run start xs).1.summary) :=
  Machine.run_history
    (fun read closed s => s.failed = false → Accounted cfg read closed (lineCounts s.summary))
    (fun _ _ _ x h _ hnext => step_accounted hstage h x hnext) (fun _ => ⟨rfl, rfl, rfl⟩)
    ((closing cfg).along_true _ xs) hend

/-! ### Partition -/

/-- Windows in a row that share out events among them, in order. -/
structure Partitions (cfg : ReplayConfig) (events : List (Int × SanitizedEvent))
    (contexts : List StructuredContext) : Prop where
  shares : ∃ blocks : List (List (Int × SanitizedEvent)), blocks.flatten = events ∧
    List.Forall₂ (fun block ctx =>
      (∀ event ∈ block, event.1 < ctx.windowStartMs + spanMs cfg) ∧
        ctx.events = block.map Prod.snd) blocks contexts
  adjacent : contexts.IsChain fun ctx next => next.windowStartMs = ctx.windowEndMs
  spans : ∀ ctx ∈ contexts.dropLast, ctx.windowStartMs + spanMs cfg ≤ ctx.windowEndMs

omit [LinearOrder F] [Add F] [Sub F] [Neg F] [OfScientific F] in
theorem Shows.bounds {contexts : List StructuredContext} {ws : List (Window Int SanitizedEvent)}
    (h : List.Forall₂ Shows contexts ws) :
    contexts.map (fun ctx => (ctx.windowStartMs, ctx.windowEndMs)) =
      ws.map fun w => (w.start, w.finish) :=
  map_eq_map_of_forall₂ (h.imp fun _ _ hshows => Prod.ext hshows.start hshows.finish)

omit [LinearOrder F] [Add F] [Sub F] [Neg F] [OfScientific F] in
theorem partitions_of_shows (hpos : 1 ≤ cfg.windowSecs.toNat)
    {events : List (Int × SanitizedEvent)} {contexts : List StructuredContext} {finish : Int}
    (h : List.Forall₂ Shows contexts (Windowing.windows (spanMs cfg) finish events)) :
    Partitions cfg events contexts where
  shares := by
    refine ⟨(Windowing.windows (spanMs cfg) finish events).map Window.items, ?_, ?_⟩
    · rw [← List.flatMap_def, Windowing.windows_items]
    · have hwithin : ∀ w ∈ Windowing.windows (spanMs cfg) finish events, ∀ x ∈ w.items,
          x.1 < w.start + spanMs cfg :=
        Windowing.windows_within (fun t => by unfold spanMs; omega) events
      rw [List.forall₂_map_left_iff]
      refine ((List.forall₂_and_left _ _).mpr ⟨hwithin, h.flip⟩).imp fun w ctx hw => ?_
      rw [hw.2.start]
      exact ⟨hw.1, hw.2.events⟩
  adjacent := by
    have hchain : (Windowing.windows (spanMs cfg) finish events).IsChain fun w w' =>
      w'.start = w.finish := Windowing.windows_chain events
    rw [← List.isChain_map (R := fun b b' : Int × Int => b'.1 = b.2)
      fun w : Window Int SanitizedEvent => (w.start, w.finish), ← Shows.bounds h] at hchain
    exact (List.isChain_map _).mp hchain
  spans := by
    have hspan : ∀ b ∈ ((Windowing.windows (spanMs cfg) finish events).map fun w =>
        (w.start, w.finish)).dropLast, b.1 + spanMs cfg ≤ b.2 := by
      rw [← List.map_dropLast]
      exact List.forall_mem_map.mpr (Windowing.windows_span events)
    rw [← Shows.bounds h, ← List.map_dropLast] at hspan
    exact fun ctx hctx => hspan _ (List.mem_map_of_mem hctx)

omit [LinearOrder F] [Add F] [Sub F] [Neg F] [OfScientific F] in
theorem Partitions.sum_lengths {events : List (Int × SanitizedEvent)}
    {contexts : List StructuredContext} (h : Partitions cfg events contexts) :
    (contexts.map fun ctx => ctx.events.length).sum = events.length := by
  obtain ⟨blocks, rfl, hblocks⟩ := h.shares
  rw [List.length_flatten]
  refine congrArg List.sum (map_eq_map_of_forall₂ (hblocks.imp fun block ctx hshare => ?_)).symm
  rw [hshare.2, List.length_map]

omit [LinearOrder F] [Add F] [Sub F] [Neg F] [OfScientific F] in
theorem inputs_items (lines : List (Option String)) (draws : Nat → ReplayDraw F) :
    (inputs lines draws).map ReplayInput.item = lines.map itemOf ++ [.endOfTrace] := by
  rw [inputs, List.map_append, List.map_map]
  congr 1
  conv_rhs => rw [← List.zipIdx_map_fst 0 lines, List.map_map]
  rfl

theorem machine_run_state (s : ReplayState) (xs : List (ReplayInput F)) :
    ((machine cfg).run s xs).1 = ((closing cfg).run s xs).1 := by
  induction xs generalizing s with
  | nil => rfl
  | cons x xs ih => exact ih _

theorem runWithAudit_isSome (sha256 : List Json → String) (lines : List (Option String))
    (draws : Nat → ReplayDraw F) : (runWithAudit sha256 cfg lines draws).2.isSome = true ↔
      ((closing cfg).run start (inputs lines draws)).1.failed = false := by
  rw [runWithAudit, ← machine_run_state]
  dsimp only
  cases ((machine cfg).run start (inputs lines draws)).1.failed <;> simp

theorem runWithAudit_returns_iff (hstage : cfg.stage.includes .context = true)
    (sha256 : List Json → String) (lines : List (Option String)) (draws : Nat → ReplayDraw F) :
    (runWithAudit sha256 cfg lines draws).2.isSome = true ↔ none ∉ lines := by
  have hunreadable : (∃ x ∈ inputs lines draws, x.item = .unreadable) ↔ none ∈ lines := by
    rw [← List.mem_map, inputs_items, List.mem_append, List.mem_map]
    constructor
    · rintro (⟨line, hline, hitem⟩ | hitem)
      · cases line with
        | none => exact hline
        | some text => cases hitem
      · cases List.mem_singleton.mp hitem
    · exact fun hline => .inl ⟨none, hline, rfl⟩
  rw [runWithAudit_isSome, ← Bool.not_eq_true, closing_failed_iff hstage, hunreadable]
  simp [start]

def ingestedEvents (cfg : ReplayConfig) (lines : List (Option String))
    (draws : Nat → ReplayDraw F) : List (Int × SanitizedEvent) :=
  (inputs lines draws).filterMap (ingestedOf cfg)

theorem closing_partitions (hstage : cfg.stage.includes .context = true)
    (hfits : cfg.windowSecs.toNat * 1000 < 2 ^ 63) (hpos : 1 ≤ cfg.windowSecs.toNat)
    {lines : List (Option String)} (hlines : none ∉ lines) (draws : Nat → ReplayDraw F) :
    Partitions cfg (ingestedEvents cfg lines draws)
      ((closing cfg).run start (inputs lines draws)).2 := by
  have hxs : ∀ x ∈ lines.zipIdx.map fun y => (⟨itemOf y.1, draws y.2⟩ : ReplayInput F),
      ∃ text, x.item = .line text := by
    rintro x hx
    obtain ⟨⟨line, i⟩, hline, rfl⟩ := List.mem_map.mp hx
    cases line with
    | none => exact absurd (List.fst_mem_of_mem_zipIdx hline) hlines
    | some text => exact ⟨text, rfl⟩
  have hshows := closing_fresh (s := start) hstage hfits hpos
    ⟨.endOfTrace, draws lines.length⟩ rfl hxs rfl rfl
  have hevents : ingestedEvents cfg lines draws = (lines.zipIdx.map fun y =>
      (⟨itemOf y.1, draws y.2⟩ : ReplayInput F)).filterMap (ingestedOf cfg) := by
    rw [ingestedEvents, inputs, List.filterMap_append]
    exact List.append_nil _
  rw [← hevents] at hshows
  exact partitions_of_shows hpos hshows

theorem written_run (hstage : cfg.stage.includes .context = true) (s : ReplayState)
    (xs : List (ReplayInput F)) :
    ((written cfg).run s xs).1 = ((closing cfg).run s xs).1 ∧
      ((written cfg).run s xs).2.filter isContext =
        ((closing cfg).run s xs).2.map contextRecord :=
  Machine.run_projects (written cfg) (closing cfg) (fun s x => ⟨rfl, step_contexts hstage s x⟩) s xs

/-- A replay divides the events of its trace among the windows it emits. -/
theorem runWithAudit_partitions (hstage : cfg.stage.includes .context = true)
    (hpos : 1 ≤ cfg.windowSecs.toNat) (hfits : cfg.windowSecs.toNat * 1000 < 2 ^ 63)
    (sha256 : List Json → String) (lines : List (Option String)) (draws : Nat → ReplayDraw F)
    (hreturns : (runWithAudit sha256 cfg lines draws).2.isSome = true) :
    let replayed := (written cfg).run start (inputs lines draws)
    let contexts := ((closing cfg).run start (inputs lines draws)).2
    let summary := replayed.1.summary
    replayed.2.filter isContext = contexts.map contextRecord ∧
      Partitions cfg (ingestedEvents cfg lines draws) contexts ∧
      summary.linesTotal =
        summary.eventsIngested + summary.linesSkippedNoRawEvent + summary.linesParseError ∧
      summary.eventsIngested = UInt64.ofNat (ingestedEvents cfg lines draws).length ∧
      (contexts.map fun ctx => ctx.events.length).sum = (ingestedEvents cfg lines draws).length ∧
      summary.windowsClosed = UInt64.ofNat contexts.length := by
  intro replayed contexts summary
  obtain ⟨hstate, hemitted⟩ := written_run hstage start (inputs lines draws)
  have hpartitions := closing_partitions hstage hfits hpos
    ((runWithAudit_returns_iff hstage sha256 lines draws).mp hreturns) draws
  have haccounted := closing_accounted hstage (inputs lines draws)
    ((runWithAudit_isSome sha256 lines draws).mp hreturns)
  rw [← hstate] at haccounted
  exact ⟨hemitted, hpartitions, haccounted.lines, haccounted.events, hpartitions.sum_lengths,
    haccounted.windows⟩

end

namespace ReplaySample

def screenJson (timestamp : UInt64) : Json :=
  .obj [("rawEvent", .obj [("ScreenState",
    .obj [("state", .str "Interactive"), ("timestamp_ms", .posInt timestamp)])]),
    ("timestampMs", .posInt timestamp)]

def screenRows : List (String × Json) :=
  [("\x7b\"rawEvent\":\x7b\"ScreenState\":\x7b\"timestamp_ms\":1,\"state\":\"Interactive\"\x7d\x7d,\"timestampMs\":1\x7d",
      screenJson 1),
    ("\x7b\"rawEvent\":\x7b\"ScreenState\":\x7b\"timestamp_ms\":9000,\"state\":\"Interactive\"\x7d\x7d,\"timestampMs\":9000\x7d",
      screenJson 9000),
    ("\x7b\"rawEvent\":\x7b\"ScreenState\":\x7b\"timestamp_ms\":10001,\"state\":\"Interactive\"\x7d\x7d,\"timestampMs\":10001\x7d",
      screenJson 10001)]

def screenSerde : Collector.Serde where
  fromStr line :=
    match screenRows.lookup line with
    | some value => .ok value
    | none => .error "expected value at line 1 column 1"
  rawEvent
    | .obj [("ScreenState",
        .obj [("state", .str "Interactive"), ("timestamp_ms", .posInt timestamp)])] =>
      .ok (.screenState ⟨timestamp.toNat, .interactive⟩)
    | _ => .error "unknown variant"

def screenCfg : ReplayConfig := { cfg with serde := screenSerde }

/-- The screen turns on three times, the last time ten seconds after the first; a line is blank,
and one is no JSON. -/
def screenLines : List (Option String) :=
  [some "", some "row"] ++ screenRows.map fun row => some row.1

end ReplaySample

theorem runWithAudit_partitions_screen :
    let lines := ReplaySample.screenLines
    let contexts :=
      ((closing ReplaySample.screenCfg).run start (inputs (F := ℚ) lines fun _ => blank .id)).2
    Partitions ReplaySample.screenCfg
      (ingestedEvents (F := ℚ) ReplaySample.screenCfg lines fun _ => blank .id) contexts ∧
      contexts.map (fun ctx => ctx.events.length) = [2, 1] :=
  ⟨(runWithAudit_partitions rfl (by decide) (by decide) (fun _ => "") _ _
    ((runWithAudit_returns_iff rfl _ _ _).mpr (by decide))).2.1, by decide +kernel⟩

end Dipecs.Cli.Replay
