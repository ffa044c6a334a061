import Dipecs.Cli.NextApp.Loader

/-! What an example knows of the future: the records that it is made from, and when the order
of the sessions is the order of time. -/

namespace Dipecs.Cli.NextApp

open Dipecs.Agent.Predictive Dipecs.Library

/-- The records that an example is made from. -/
structure ExampleOrigin where
  current : LsAppRecord
  history : List LsAppRecord
  label : LsAppRecord
  deriving DecidableEq

def ExampleOrigin.toExample (userId : String) (o : ExampleOrigin) : NextAppTrainingExample where
  userId := userId
  currentApp := o.current.appName
  history := o.history.map (·.appName)
  hourBucket := hourBucket o.current.timestampMs
  weekday := weekday o.current.timestampMs
  eventType := o.current.eventType
  labelApp := o.label.appName

def originAt (records : List LsAppRecord) (horizonSecs : UInt64) (historyLen idx : Nat) :
    Option ExampleOrigin := do
  let current ← records[idx]?
  let label ← nextLabelRecord records idx horizonSecs
  return ⟨current, (records.take idx).rtake historyLen, label⟩

theorem originAt_eq_some {records : List LsAppRecord} {horizonSecs : UInt64}
    {historyLen idx : Nat} {o : ExampleOrigin} :
    originAt records horizonSecs historyLen idx = some o ↔
      records[idx]? = some o.current ∧ nextLabelRecord records idx horizonSecs = some o.label ∧
        o.history = (records.take idx).rtake historyLen := by
  obtain ⟨current, history, label⟩ := o
  simp only [originAt, Option.bind_eq_bind, Option.bind_eq_some_iff, Option.pure_def,
    Option.some.injEq, ExampleOrigin.mk.injEq]
  constructor
  · rintro ⟨c, hc, l, hl, rfl, rfl, rfl⟩
    exact ⟨hc, hl, rfl⟩
  · rintro ⟨hc, hl, rfl⟩
    exact ⟨current, hc, label, hl, rfl, rfl, rfl⟩

def origins (records : List LsAppRecord) (horizonSecs : UInt64) (historyLen : Nat) :
    List ExampleOrigin :=
  (List.range (records.length - 1)).filterMap (originAt records horizonSecs historyLen)

def userRecords (records : List LsAppRecord) (user : String) : List LsAppRecord :=
  records.filter fun r => r.userId = user

def users (records : List LsAppRecord) : List String := SortedMap.setOf (records.map (·.userId))

section loop
variable {horizonSecs : UInt64} {historyLen : Nat}

theorem rtake_rtake_concat {α : Type} (n : Nat) (l : List α) (x : α) :
    (l.rtake n ++ [x]).rtake n = (l ++ [x]).rtake n := by
  cases n with
  | zero => rw [List.rtake_zero, List.rtake_zero]
  | succ n =>
    rw [List.rtake_concat_succ, List.rtake_concat_succ]
    simp only [List.rtake_eq_reverse_take_reverse, List.reverse_reverse, List.take_take,
      Nat.min_eq_left (Nat.le_succ n)]

theorem map_rtake {α β : Type} (f : α → β) (n : Nat) (l : List α) :
    (l.rtake n).map f = (l.map f).rtake n := by
  rw [List.rtake, List.rtake, List.map_drop, List.length_map]

theorem exampleStep_eq (userId : String) {records : List LsAppRecord} {idx : Nat}
    (hidx : idx < records.length) (examples : List NextAppTrainingExample) :
    exampleStep userId records horizonSecs historyLen
        (((records.take idx).rtake historyLen).map (·.appName), examples) idx =
      (((records.take (idx + 1)).rtake historyLen).map (·.appName), examples ++
        ((originAt records horizonSecs historyLen idx).map
          (ExampleOrigin.toExample userId)).toList) := by
  have hget : records[idx]? = some records[idx] := List.getElem?_eq_getElem hidx
  have hhistory : pushHistory (((records.take idx).rtake historyLen).map (·.appName))
      records[idx].appName historyLen =
        ((records.take (idx + 1)).rtake historyLen).map (·.appName) := by
    rw [pushHistory, map_rtake, rtake_rtake_concat, List.take_succ_eq_append_getElem hidx,
      map_rtake, List.map_append, List.map_singleton]
  unfold exampleStep originAt
  simp only [hget, hhistory]
  cases hnext : nextLabelRecord records idx horizonSecs with
  | none => simp
  | some next =>
    obtain ⟨-, -, -, -, -, happ, -⟩ := nextLabelRecord_eq_some hget hnext
    simp [Ne.symm happ, ExampleOrigin.toExample]

theorem userExamples_eq (userId : String) (records : List LsAppRecord) :
    userExamples horizonSecs historyLen userId records =
      (origins (sessionOrder records) horizonSecs historyLen).map
        (ExampleOrigin.toExample userId) := by
  have hrun : ∀ n, n ≤ (sessionOrder records).length →
      (List.range n).foldl (exampleStep userId (sessionOrder records) horizonSecs historyLen)
          ([], []) =
        ((((sessionOrder records).take n).rtake historyLen).map (·.appName),
          ((List.range n).filterMap (originAt (sessionOrder records) horizonSecs historyLen)).map
            (ExampleOrigin.toExample userId)) := by
    intro n
    induction n with
    | zero => simp [List.rtake]
    | succ n ih =>
      intro hn
      rw [List.range_succ, List.foldl_append, ih (Nat.le_of_succ_le hn), List.foldl_cons,
        List.foldl_nil, exampleStep_eq userId hn, List.filterMap_append, List.map_append]
      cases h : originAt (sessionOrder records) horizonSecs historyLen n <;> simp [h]
  rw [userExamples, origins]
  exact congrArg Prod.snd (hrun _ (Nat.sub_le _ _))

theorem loadExamples_eq_ok {records : List LsAppRecord} {examples : List NextAppTrainingExample}
    (h : loadExamples records horizonSecs historyLen = .ok examples) :
    examples = (users records).flatMap fun user =>
      (origins (sessionOrder (userRecords records user)) horizonSecs historyLen).map
        (ExampleOrigin.toExample user) := by
  unfold loadExamples at h
  split at h
  · cases h
  · rw [SortedMap.entries_group, List.flatMap_map] at h
    cases h
    exact List.flatMap_congr fun user _ => userExamples_eq user _

end loop

def InTimeOrder (records : List LsAppRecord) : Prop :=
  records.Pairwise fun a b => a.timestampMs ≤ b.timestampMs

instance (records : List LsAppRecord) : Decidable (InTimeOrder records) :=
  inferInstanceAs (Decidable (List.Pairwise _ records))

/-- An example of a user that knows nothing of the future.  Records of one time may stand in
any order. -/
structure Causal (records : List LsAppRecord) (horizonSecs : UInt64) (historyLen : Nat)
    (o : ExampleOrigin) : Prop where
  /-- The history is the end of what came before the current record. -/
  history : ∃ earlier later, (earlier ++ o.current :: later).Perm records ∧
    InTimeOrder (earlier ++ [o.current]) ∧
    (∀ r ∈ later, o.current.timestampMs ≤ r.timestampMs) ∧
    o.history = earlier.rtake historyLen
  /-- The label is the next other app of the session, within the horizon. -/
  label : ∃ before between after,
    (before ++ o.current :: (between ++ o.label :: after)).Perm
      (records.filter fun r => r.sessionId = o.current.sessionId) ∧
    InTimeOrder (before ++ o.current :: (between ++ o.label :: after)) ∧
    (∀ r ∈ between, r.appName = o.current.appName) ∧
    o.label.appName ≠ o.current.appName ∧
    o.label.timestampMs - o.current.timestampMs ≤ horizonSecs.toNat * 1000

/-- The loaded examples are causal, and those of each user in the order of time. -/
structure LeakFree (records : List LsAppRecord) (horizonSecs : UInt64) (historyLen : Nat) :
    Prop where
  made : ∀ examples, loadExamples records horizonSecs historyLen = .ok examples →
    examples = (users records).flatMap fun user =>
      (origins (sessionOrder (userRecords records user)) horizonSecs historyLen).map
        (ExampleOrigin.toExample user)
  causal : ∀ user ∈ users records,
    ∀ o ∈ origins (sessionOrder (userRecords records user)) horizonSecs historyLen,
      Causal (userRecords records user) horizonSecs historyLen o
  chronological : ∀ user ∈ users records,
    InTimeOrder ((origins (sessionOrder (userRecords records user)) horizonSecs historyLen).map
      (·.current))

/-- No two timestamps are further apart than 64 bits can tell. -/
def InRange (records : List LsAppRecord) : Prop :=
  ∀ a ∈ records, ∀ b ∈ records, a.timestampMs - b.timestampMs < 2 ^ 63

instance (records : List LsAppRecord) : Decidable (InRange records) :=
  inferInstanceAs (Decidable (∀ a ∈ records, ∀ b ∈ records, _))

/-- Up to each record with a label, the session order is that of time, and nothing after it is
earlier. -/
def ExamplesInOrder (records : List LsAppRecord) (horizonSecs : UInt64) : Prop :=
  ∀ idx (h : idx < records.length), (nextLabelRecord records idx horizonSecs).isSome →
    InTimeOrder (records.take (idx + 1)) ∧
      ∀ r ∈ records.drop (idx + 1), records[idx].timestampMs ≤ r.timestampMs

instance (records : List LsAppRecord) (horizonSecs : UInt64) :
    Decidable (ExamplesInOrder records horizonSecs) :=
  inferInstanceAs (Decidable (∀ idx (_ : idx < records.length), _ → _))

section causal
variable {records : List LsAppRecord} {horizonSecs : UInt64} {historyLen : Nat}

theorem horizonMs_le : horizonMs horizonSecs ≤ horizonSecs.toNat * 1000 := by
  have hwrap : horizonMs horizonSecs = Int.bmod (horizonSecs.toNat * 1000) (2 ^ 64) := by
    rw [horizonMs, i64, i64, Int.bmod_mul_bmod]
  rw [hwrap, Int.bmod]
  split <;> omega

theorem succ_lt_of_nextLabelRecord {idx : Nat} {next : LsAppRecord}
    (h : nextLabelRecord records idx horizonSecs = some next) : idx + 1 < records.length := by
  obtain ⟨current, hcurrent, -⟩ := Option.bind_eq_some_iff.mp h
  obtain ⟨between, rest, hsplit, -⟩ := nextLabelRecord_eq_some hcurrent h
  have hidx := (List.getElem?_eq_some_iff.mp hcurrent).1
  have hlen := congrArg List.length hsplit
  simp only [List.length_append, List.length_cons, List.length_take] at hlen
  omega

theorem mem_origins {o : ExampleOrigin} :
    o ∈ origins records horizonSecs historyLen ↔
      ∃ idx, originAt records horizonSecs historyLen idx = some o := by
  rw [origins, List.mem_filterMap]
  refine exists_congr fun idx => and_iff_right_of_imp fun h => List.mem_range.mpr ?_
  have hlt := succ_lt_of_nextLabelRecord (originAt_eq_some.mp h).2.1
  omega

theorem inTimeOrder_session (sessionId : String) :
    InTimeOrder ((sessionOrder records).filter fun r => r.sessionId = sessionId) := by
  refine ((sessionOrder_pairwise records).filter _).imp_of_mem fun {a b} ha hb hle => ?_
  have ha : a.sessionId = sessionId := of_decide_eq_true (List.mem_filter.mp ha).2
  have hb : b.sessionId = sessionId := of_decide_eq_true (List.mem_filter.mp hb).2
  exact le_of_recordKey_le (ha.trans hb.symm) hle

theorem label_of_originAt (hrange : InRange records) {idx : Nat} {o : ExampleOrigin}
    (h : originAt (sessionOrder records) horizonSecs historyLen idx = some o) :
    ∃ before between after,
      (before ++ o.current :: (between ++ o.label :: after)).Perm
        (records.filter fun r => r.sessionId = o.current.sessionId) ∧
      InTimeOrder (before ++ o.current :: (between ++ o.label :: after)) ∧
      (∀ r ∈ between, r.appName = o.current.appName) ∧
      o.label.appName ≠ o.current.appName ∧
      o.label.timestampMs - o.current.timestampMs ≤ horizonSecs.toNat * 1000 := by
  obtain ⟨hcurrent, hlabel, -⟩ := originAt_eq_some.mp h
  obtain ⟨between, rest, hsplit, hbetween, hsession, happ, hhorizon⟩ :=
    nextLabelRecord_eq_some hcurrent hlabel
  let ofSession := fun r : LsAppRecord => decide (r.sessionId = o.current.sessionId)
  have hfilter : (sessionOrder records).filter ofSession =
      ((sessionOrder records).take idx).filter ofSession ++
        o.current :: (between ++ o.label :: rest.filter ofSession) := by
    have hall : between.filter ofSession = between :=
      List.filter_eq_self.mpr fun r hr => decide_eq_true (hbetween r hr).1
    conv_lhs => rw [hsplit]
    rw [List.filter_append, List.filter_cons_of_pos (by simp [ofSession]), List.filter_append, hall,
      List.filter_cons_of_pos (by simpa [ofSession] using hsession)]
  have hmem : ∀ r ∈ sessionOrder records, r ∈ records :=
    fun r hr => (sessionOrder_perm records).mem_iff.mp hr
  have hcurrentMem : o.current ∈ records :=
    hmem _ (List.mem_of_getElem? hcurrent)
  have hlabelMem : o.label ∈ records := hmem _ (hsplit ▸ by simp)
  have hforth := hrange _ hlabelMem _ hcurrentMem
  have hback := hrange _ hcurrentMem _ hlabelMem
  rw [i64_of_range (by omega) (by omega)] at hhorizon
  refine ⟨((sessionOrder records).take idx).filter ofSession, between, rest.filter ofSession,
    ?_, ?_, fun r hr => (hbetween r hr).2, happ, hhorizon.trans horizonMs_le⟩
  · rw [← hfilter]
    exact (sessionOrder_perm records).filter _
  · rw [← hfilter]
    exact inTimeOrder_session o.current.sessionId

theorem take_cons_drop {idx : Nat} {r : LsAppRecord} (h : records[idx]? = some r) :
    records.take (idx + 1) = records.take idx ++ [r] ∧
      records = records.take idx ++ r :: records.drop (idx + 1) := by
  obtain ⟨hlt, rfl⟩ := List.getElem?_eq_some_iff.mp h
  rw [← List.drop_eq_getElem_cons hlt, List.take_append_drop]
  exact ⟨List.take_succ_eq_append_getElem hlt, rfl⟩

theorem ExamplesInOrder.causal (h : ExamplesInOrder (sessionOrder records) horizonSecs)
    (hrange : InRange records) {o : ExampleOrigin}
    (ho : o ∈ origins (sessionOrder records) horizonSecs historyLen) :
    Causal records horizonSecs historyLen o := by
  obtain ⟨idx, hidx⟩ := mem_origins.mp ho
  obtain ⟨hcurrent, hlabel, hhistory⟩ := originAt_eq_some.mp hidx
  obtain ⟨htake, hsplit⟩ := take_cons_drop hcurrent
  obtain ⟨hlt, hget⟩ := List.getElem?_eq_some_iff.mp hcurrent
  obtain ⟨hbefore, hafter⟩ := h idx hlt (Option.isSome_of_eq_some hlabel)
  refine ⟨⟨_, _, ?_, htake ▸ hbefore, hget ▸ hafter, hhistory⟩, label_of_originAt hrange hidx⟩
  rw [← hsplit]
  exact sessionOrder_perm records

theorem ExamplesInOrder.chronological (h : ExamplesInOrder records horizonSecs) :
    InTimeOrder ((origins records horizonSecs historyLen).map (·.current)) := by
  rw [InTimeOrder, List.pairwise_map, origins, List.pairwise_filterMap]
  refine List.pairwise_lt_range.imp fun {i j} hij o ho o' ho' => ?_
  obtain ⟨hcurrent, -, -⟩ := originAt_eq_some.mp ho
  obtain ⟨hcurrent', hlabel', -⟩ := originAt_eq_some.mp ho'
  have hlt := (List.getElem?_eq_some_iff.mp hcurrent').1
  have hbefore := (h j hlt (Option.isSome_of_eq_some hlabel')).1
  rw [(take_cons_drop hcurrent').1, InTimeOrder, List.pairwise_append] at hbefore
  refine hbefore.2.2 _ ?_ _ (List.mem_singleton_self _)
  exact List.mem_of_getElem? ((List.getElem?_take_of_lt hij).trans hcurrent)

theorem examplesInOrder_of_causal
    (h : ∀ o ∈ origins (sessionOrder records) horizonSecs records.length,
      Causal records horizonSecs records.length o) :
    ExamplesInOrder (sessionOrder records) horizonSecs := by
  intro idx hlt hlabel
  obtain ⟨label, hlabel⟩ := Option.isSome_iff_exists.mp hlabel
  have hcurrent := List.getElem?_eq_getElem hlt
  obtain ⟨htake, hsplit⟩ := take_cons_drop hcurrent
  let o : ExampleOrigin := ⟨(sessionOrder records)[idx],
    ((sessionOrder records).take idx).rtake records.length, label⟩
  have ho : originAt (sessionOrder records) horizonSecs records.length idx = some o :=
    originAt_eq_some.mpr ⟨hcurrent, hlabel, rfl⟩
  obtain ⟨earlier, later, hperm, hearlier, hlater, hhistory⟩ :=
    (h o (mem_origins.mpr ⟨idx, ho⟩)).history
  have hlen := hperm.length_eq
  rw [List.length_append] at hlen
  have hwhole : ∀ l : List LsAppRecord, l.length ≤ records.length →
      l.rtake records.length = l := fun l hl => by
    rw [List.rtake, Nat.sub_eq_zero_of_le hl, List.drop_zero]
  have htakeLen : ((sessionOrder records).take idx).length ≤ records.length :=
    (List.length_take_le' _ _).trans (sessionOrder_perm records).length_eq.le
  obtain rfl : (sessionOrder records).take idx = earlier := by
    rw [← hwhole _ htakeLen, ← hwhole earlier (by omega)]
    exact hhistory
  refine ⟨htake ▸ hearlier, fun r hr => hlater r ?_⟩
  have hrest := (hperm.trans (sessionOrder_perm records).symm).trans (.of_eq hsplit)
  have hlaterPerm := ((List.perm_append_left_iff _).mp hrest).cons_inv
  exact hlaterPerm.mem_iff.mpr hr

end causal

/-- Of two sessions one is over before the other starts. -/
def SessionsApart (records : List LsAppRecord) : Prop :=
  ∀ a ∈ records, ∀ b ∈ records, a.sessionId ≠ b.sessionId → a.timestampMs ≤ b.timestampMs →
    ∀ a' ∈ records, a'.sessionId = a.sessionId → ∀ b' ∈ records, b'.sessionId = b.sessionId →
      a'.timestampMs < b'.timestampMs

theorem SessionsApart.inTimeOrder {records : List LsAppRecord} (h : SessionsApart records) :
    InTimeOrder (sessionOrder records) := by
  refine (sessionOrder_pairwise records).imp_of_mem fun {a b} ha hb hle => ?_
  by_cases hsession : a.sessionId = b.sessionId
  · exact le_of_recordKey_le hsession hle
  · by_contra hlater
    have ha := (sessionOrder_perm records).mem_iff.mp ha
    have hb := (sessionOrder_perm records).mem_iff.mp hb
    obtain ⟨a', ha', hsessionA, hstartA⟩ := exists_start ha
    obtain ⟨b', hb', hsessionB, hstartB⟩ := exists_start hb
    have hstart : a'.timestampMs ≤ b'.timestampMs := by
      rw [← hstartA, ← hstartB]
      rw [recordKey, recordKey, Prod.Lex.toLex_le_toLex] at hle
      exact hle.elim le_of_lt fun h => h.1.le
    have hbefore := h b hb a ha (Ne.symm hsession) (not_le.mp hlater).le b' hb' hsessionB a' ha'
      hsessionA
    exact (hbefore.trans_le hstart).false

theorem SessionsApart.examplesInOrder {records : List LsAppRecord} (h : SessionsApart records)
    (horizonSecs : UInt64) : ExamplesInOrder (sessionOrder records) horizonSecs := by
  intro idx hlt _
  obtain ⟨-, hsplit⟩ := take_cons_drop (List.getElem?_eq_getElem hlt)
  refine ⟨h.inTimeOrder.sublist (List.take_sublist _ _), fun r hr => ?_⟩
  have horder := h.inTimeOrder
  rw [hsplit, InTimeOrder, List.pairwise_append] at horder
  exact List.rel_of_pairwise_cons horder.2.1 hr

/-- On records with timestamps in range, the examples know nothing of the future, for every
history length, just when each user's records are in the order of time as far as they give
examples. -/
theorem loadExamples_leakFree_iff {records : List LsAppRecord} (hrange : InRange records)
    (horizonSecs : UInt64) :
    (∀ historyLen, LeakFree records horizonSecs historyLen) ↔
      ∀ user ∈ users records,
        ExamplesInOrder (sessionOrder (userRecords records user)) horizonSecs := by
  constructor
  · intro h user huser
    exact examplesInOrder_of_causal ((h _).causal user huser)
  · intro h historyLen
    have huser : ∀ user, InRange (userRecords records user) := fun user a ha b hb =>
      hrange a (List.mem_of_mem_filter ha) b (List.mem_of_mem_filter hb)
    exact ⟨fun _ => loadExamples_eq_ok, fun user hmem o ho => (h user hmem).causal (huser user) ho,
      fun user hmem => (h user hmem).chronological⟩

namespace LsAppSample

def record (sessionId : String) (timestampMs : Int) (appName : String) (ordinal : Nat) :
    LsAppRecord :=
  ⟨"u1", sessionId, timestampMs, appName, "opened", ordinal⟩

def apart : List LsAppRecord :=
  [record "s1" 0 "chat" 0, record "s1" 10000 "mail" 1, record "s2" 20000 "maps" 2,
    record "s2" 30000 "chat" 3]

def overlapping : List LsAppRecord :=
  [record "s1" 0 "chat" 0, record "s1" 60000 "mail" 1, record "s1" 70000 "chat" 2,
    record "s2" 10000 "maps" 3, record "s2" 20000 "mail" 4]

theorem sessionOrder_apart : sessionOrder (userRecords apart "u1") = apart :=
  sessionOrder_eq_self (by decide +kernel)

theorem sessionOrder_overlapping : sessionOrder (userRecords overlapping "u1") = overlapping :=
  sessionOrder_eq_self (by decide +kernel)

end LsAppSample

open LsAppSample in
theorem loadExamples_leakFree_apart : LeakFree apart 30 5 := by
  refine (loadExamples_leakFree_iff (by decide) 30).mpr (fun user huser => ?_) 5
  have husers : users apart = ["u1"] := by decide +kernel
  obtain rfl : user = "u1" := List.mem_singleton.mp (husers ▸ huser)
  rw [sessionOrder_apart]
  decide +kernel

open LsAppSample in
/-- The maps at ten seconds come after the mail at sixty, with a history from then. -/
theorem loadExamples_leaks :
    InRange overlapping ∧
      (origins (sessionOrder (userRecords overlapping "u1")) 30 5).map (fun o =>
        (o.current.timestampMs, o.history.map (·.timestampMs))) =
          [(60000, [0]), (10000, [0, 60000, 70000])] ∧
      ¬LeakFree overlapping 30 5 := by
  refine ⟨by decide, ?_, fun h => ?_⟩
  · rw [sessionOrder_overlapping]
    decide +kernel
  · have horder := h.chronological "u1" (by decide +kernel)
    rw [sessionOrder_overlapping] at horder
    exact absurd horder (by decide +kernel)

end Dipecs.Cli.NextApp
