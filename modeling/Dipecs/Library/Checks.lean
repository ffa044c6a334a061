import Mathlib.Data.List.Forall2

/-! Checks that stop at the first failure, and indexing that may be out of range. -/

namespace Dipecs.Library

def require {ε : Type} (ok : Bool) (e : ε) : Except ε Unit := if ok then .ok () else .error e

def requireEach {ε α κ : Type} [DecidableEq κ] (key : α → κ) (before after : α → Except ε Unit)
    (duplicate : α → ε) : List κ → List α → Except ε Unit
  | _, [] => .ok ()
  | seen, a :: l => do
    before a
    require (key a ∉ seen) (duplicate a)
    after a
    requireEach key before after duplicate (key a :: seen) l

def requireAll {ε α : Type} (check : α → Except ε Unit) : List α → Except ε Unit
  | [] => .ok ()
  | a :: l => do
    check a
    requireAll check l

section
variable {ε α κ : Type}

@[simp] theorem require_eq_ok {ok : Bool} {e : ε} : require ok e = .ok () ↔ ok = true := by
  cases ok <;> simp [require]

@[simp] theorem ok_bind {α β : Type} (a : α) (f : α → Except ε β) :
    (Except.ok a >>= f) = f a := rfl

theorem bind_eq_ok_iff {α β : Type} {x : Except ε α} {f : α → Except ε β} {b : β} :
    (x >>= f) = .ok b ↔ ∃ a, x = .ok a ∧ f a = .ok b := by
  cases x with
  | error e => simp [bind, Except.bind]
  | ok a => simp

theorem bind_congr_ok {α β : Type} {x : Except ε α} {f g : α → Except ε β}
    (h : ∀ a, x = .ok a → f a = g a) : (x >>= f) = (x >>= g) := by
  cases x with
  | error e => rfl
  | ok a => exact h a rfl

@[simp] theorem bind_eq_ok {x y : Except ε Unit} :
    (x >>= fun _ => y) = .ok () ↔ x = .ok () ∧ y = .ok () := by
  cases x with
  | error e => simp [bind, Except.bind]
  | ok u => simp [bind, Except.bind]

@[simp] theorem requireAll_eq_ok {check : α → Except ε Unit} {l : List α} :
    requireAll check l = .ok () ↔ ∀ a ∈ l, check a = .ok () := by
  induction l with
  | nil => simp [requireAll]
  | cons a l ih => simp [requireAll, ih]

variable [DecidableEq κ]

theorem requireEach_eq_ok {key : α → κ} {before after : α → Except ε Unit} {duplicate : α → ε}
    {seen : List κ} {l : List α} :
    requireEach key before after duplicate seen l = .ok () ↔
      (∀ a ∈ l, before a = .ok () ∧ after a = .ok () ∧ key a ∉ seen) ∧ (l.map key).Nodup := by
  induction l generalizing seen with
  | nil => simp [requireEach]
  | cons a l ih =>
    simp only [requireEach, bind_eq_ok, require_eq_ok, decide_eq_true_eq, ih, List.map_cons,
      List.nodup_cons, List.mem_cons, List.mem_map, not_or, forall_eq_or_imp]
    constructor
    · rintro ⟨hbefore, hnew, hafter, hrest, hnodup⟩
      refine ⟨⟨⟨hbefore, hafter, hnew⟩, fun b hb => ?_⟩, ?_, hnodup⟩
      · exact ⟨(hrest b hb).1, (hrest b hb).2.1, (hrest b hb).2.2.2⟩
      · rintro ⟨b, hb, heq⟩
        exact (hrest b hb).2.2.1 heq
    · rintro ⟨⟨⟨hbefore, hafter, hnew⟩, hrest⟩, hnot, hnodup⟩
      refine ⟨hbefore, hnew, hafter, fun b hb => ?_, hnodup⟩
      exact ⟨(hrest b hb).1, (hrest b hb).2.1, fun heq => hnot ⟨b, hb, heq⟩, (hrest b hb).2.2⟩

end

/-- What stops a computation: an error it returns, an index out of range, or a sort that finds no
total order. -/
inductive Fault
  | error (message : String)
  | outOfRange
  | unordered
  deriving DecidableEq

def readAt {α : Type} (l : List α) (i : Nat) : Except Fault α :=
  match l[i]? with
  | some a => .ok a
  | none => .error .outOfRange

def writeAt {α : Type} (l : List α) (i : Nat) (a : α) : Except Fault (List α) :=
  if i < l.length then .ok (l.set i a) else .error .outOfRange

section
variable {α : Type}

theorem readAt_eq_ok {l : List α} {i : Nat} (h : i < l.length) : readAt l i = .ok l[i] := by
  simp [readAt, h]

theorem readAt_eq_ok_iff {l : List α} {i : Nat} {a : α} : readAt l i = .ok a ↔ l[i]? = some a := by
  unfold readAt
  split <;> simp_all

theorem writeAt_eq_ok_iff {l l' : List α} {i : Nat} {a : α} :
    writeAt l i a = .ok l' ↔ i < l.length ∧ l.set i a = l' := by
  by_cases h : i < l.length
  · rw [writeAt, if_pos h, Except.ok.injEq]
    exact (and_iff_right h).symm
  · rw [writeAt, if_neg h]
    exact ⟨fun heq => (nomatch heq), fun heq => absurd heq.1 h⟩

theorem writeAt_eq_ok {l : List α} {i : Nat} (h : i < l.length) (a : α) :
    writeAt l i a = .ok (l.set i a) := if_pos h

end

section
variable {ε α β σ : Type}

/-- Invariant rule for loops: when no step stops, and each keeps `P`, the loop ends in `P`. -/
theorem foldlM_eq_ok {P : σ → Prop} {step : σ → α → Except ε σ} {l : List α}
    (hstep : ∀ s, P s → ∀ a ∈ l, ∃ s', step s a = .ok s' ∧ P s') {s : σ} (h : P s) :
    ∃ s', l.foldlM step s = .ok s' ∧ P s' := by
  induction l generalizing s with
  | nil => exact ⟨s, rfl, h⟩
  | cons a l ih =>
    obtain ⟨s', heq, hs'⟩ := hstep s h a List.mem_cons_self
    rw [List.foldlM_cons, heq, ok_bind]
    exact ih (fun s hs b hb => hstep s hs b (List.mem_cons_of_mem a hb)) hs'

theorem foldlM_keeps {P : σ → Prop} {step : σ → α → Except ε σ} {l : List α}
    (hstep : ∀ s, P s → ∀ a ∈ l, ∀ s', step s a = .ok s' → P s') {s s' : σ} (h : P s)
    (hloop : l.foldlM step s = .ok s') : P s' := by
  induction l generalizing s with
  | nil => exact Except.ok.inj hloop ▸ h
  | cons a l ih =>
    rw [List.foldlM_cons] at hloop
    obtain ⟨s₁, hs₁, hloop⟩ := bind_eq_ok_iff.mp hloop
    exact ih (fun s hs b hb => hstep s hs b (List.mem_cons_of_mem a hb))
      (hstep s h a List.mem_cons_self s₁ hs₁) hloop

theorem foldlM_ok_each {step : σ → α → Except ε σ} {l : List α} {s s' : σ}
    (h : l.foldlM step s = .ok s') : ∀ a ∈ l, ∃ s₁ s₂, step s₁ a = .ok s₂ := by
  induction l generalizing s with
  | nil => exact fun a ha => absurd ha List.not_mem_nil
  | cons a l ih =>
    rw [List.foldlM_cons] at h
    obtain ⟨s₁, hs₁, h⟩ := bind_eq_ok_iff.mp h
    exact List.forall_mem_cons.mpr ⟨⟨s, s₁, hs₁⟩, ih h⟩

theorem foldlM_congr₂ {step : σ → α → Except ε σ} {step' : σ → β → Except ε σ} {l : List α}
    {l' : List β} (h : List.Forall₂ (fun a b => ∀ s, step s a = step' s b) l l') (s : σ) :
    l.foldlM step s = l'.foldlM step' s := by
  induction h generalizing s with
  | nil => rfl
  | cons hstep _ ih =>
    rw [List.foldlM_cons, List.foldlM_cons, hstep]
    exact bind_congr_ok fun s' _ => ih s'

theorem foldl_iff {Q : σ → Prop} {R : α → Prop} {step : σ → α → σ}
    (hstep : ∀ s a, Q (step s a) ↔ Q s ∨ R a) (l : List α) (s : σ) :
    Q (l.foldl step s) ↔ Q s ∨ ∃ a ∈ l, R a := by
  induction l generalizing s with
  | nil => simp
  | cons a l ih => rw [List.foldl_cons, ih, hstep, or_assoc, List.exists_mem_cons_iff]

theorem foldlM_iff {Q : σ → Prop} {R : α → Prop} {step : σ → α → Except ε σ}
    (hstep : ∀ s a s', step s a = .ok s' → (Q s' ↔ Q s ∨ R a)) {l : List α} {s s' : σ}
    (h : l.foldlM step s = .ok s') : Q s' ↔ Q s ∨ ∃ a ∈ l, R a := by
  induction l generalizing s with
  | nil =>
    cases h
    simp
  | cons a l ih =>
    rw [List.foldlM_cons] at h
    obtain ⟨s₁, hs₁, h⟩ := bind_eq_ok_iff.mp h
    rw [ih h, hstep s a s₁ hs₁, or_assoc, List.exists_mem_cons_iff]

theorem mapM_forall₂ {R : α → β → Prop} {f : α → Except ε β} {l : List α}
    (h : ∀ a ∈ l, ∃ b, f a = .ok b ∧ R a b) :
    ∃ bs, l.mapM f = .ok bs ∧ List.Forall₂ R l bs := by
  induction l with
  | nil => exact ⟨[], rfl, .nil⟩
  | cons a l ih =>
    obtain ⟨b, heq, hb⟩ := h a List.mem_cons_self
    obtain ⟨bs, hbs, hall⟩ := ih fun a' ha' => h a' (List.mem_cons_of_mem a ha')
    refine ⟨b :: bs, ?_, .cons hb hall⟩
    rw [List.mapM_cons, heq, hbs, ok_bind, ok_bind]
    rfl

theorem mapM_congr₂ {γ : Type} {f : α → Except ε γ} {g : β → Except ε γ} {l : List α} {l' : List β}
    (h : List.Forall₂ (fun a b => f a = g b) l l') : l.mapM f = l'.mapM g := by
  induction h with
  | nil => rfl
  | cons heq _ ih => rw [List.mapM_cons, List.mapM_cons, heq, ih]

theorem forall₂_of_mem_left {R : α → β → Prop} {l : List α} {bs : List β}
    (h : List.Forall₂ R l bs) {a : α} (ha : a ∈ l) : ∃ b ∈ bs, R a b := by
  obtain ⟨i, hi, rfl⟩ := List.getElem_of_mem ha
  exact ⟨_, List.getElem_mem (h.length_eq ▸ hi), h.get hi (h.length_eq ▸ hi)⟩

theorem forall₂_of_mem_right {R : α → β → Prop} {l : List α} {bs : List β}
    (h : List.Forall₂ R l bs) {b : β} (hb : b ∈ bs) : ∃ a ∈ l, R a b :=
  forall₂_of_mem_left (R := fun b a => R a b) h.flip hb

theorem mapM_eq_ok_iff {f : α → Except ε β} {l : List α} {bs : List β} :
    l.mapM f = .ok bs ↔ List.Forall₂ (fun a b => f a = .ok b) l bs := by
  induction l generalizing bs with
  | nil =>
    rw [List.forall₂_nil_left_iff]
    exact ⟨fun h => (Except.ok.inj h).symm, fun h => h ▸ rfl⟩
  | cons a l ih =>
    rw [List.mapM_cons, bind_eq_ok_iff, List.forall₂_cons_left_iff]
    constructor
    · rintro ⟨b, hb, h⟩
      obtain ⟨bs', hbs', heq⟩ := bind_eq_ok_iff.mp h
      exact ⟨b, bs', hb, ih.mp hbs', (Except.ok.inj heq).symm⟩
    · rintro ⟨b, bs', hb, hbs', rfl⟩
      exact ⟨b, hb, bind_eq_ok_iff.mpr ⟨bs', ih.mpr hbs', rfl⟩⟩

theorem mapM_eq_ok {P : β → Prop} {f : α → Except ε β} {l : List α}
    (h : ∀ a ∈ l, ∃ b, f a = .ok b ∧ P b) :
    ∃ bs, l.mapM f = .ok bs ∧ bs.length = l.length ∧ ∀ b ∈ bs, P b := by
  obtain ⟨bs, heq, hall⟩ := mapM_forall₂ (R := fun _ => P) h
  have hright : List.Forall₂ (fun b (_ : α) => P b ∧ True) bs l :=
    hall.flip.imp fun _ _ hb => ⟨hb, trivial⟩
  exact ⟨bs, heq, hall.length_eq.symm, ((List.forall₂_and_left bs l).mp hright).1⟩

theorem filterMapM_eq_ok {P : β → Prop} {f : α → Except ε (Option β)} {l : List α}
    (h : ∀ a ∈ l, ∃ b, f a = .ok b ∧ ∀ x ∈ b, P x) :
    ∃ bs, l.filterMapM f = .ok bs ∧ ∀ x ∈ bs, P x := by
  induction l with
  | nil => exact ⟨[], rfl, fun x hx => absurd hx List.not_mem_nil⟩
  | cons a l ih =>
    obtain ⟨b, heq, hb⟩ := h a List.mem_cons_self
    obtain ⟨bs, hbs, hall⟩ := ih fun a' ha' => h a' (List.mem_cons_of_mem a ha')
    rw [List.filterMapM_cons, heq, ok_bind, hbs]
    cases b with
    | none => exact ⟨bs, rfl, hall⟩
    | some x => exact ⟨x :: bs, rfl, by simpa using ⟨hb x rfl, hall⟩⟩

end

/-- What a computation ends in, given that it is stopped by no other faults than these. -/
def Yields {ε α : Type} (stops : ε → Prop) (P : α → Prop) : Except ε α → Prop
  | .ok a => P a
  | .error e => stops e

section
variable {ε α β σ : Type} {stops : ε → Prop}

theorem yields_of_ok {P : α → Prop} {x : Except ε α} (h : ∃ a, x = .ok a ∧ P a) :
    Yields stops P x := by
  obtain ⟨a, rfl, ha⟩ := h
  exact ha

namespace Yields
variable {P : α → Prop} {x : Except ε α}

theorem of_ok (h : Yields stops P x) {a : α} (hx : x = .ok a) : P a := by
  subst hx
  exact h

theorem exists_ok (h : Yields stops P x) (hnone : ∀ e, ¬stops e) : ∃ a, x = .ok a ∧ P a := by
  cases x with
  | error e => exact absurd h (hnone e)
  | ok a => exact ⟨a, rfl, h⟩

theorem imp {Q : α → Prop} (h : Yields stops P x) (hQ : ∀ a, P a → Q a) : Yields stops Q x := by
  cases x with
  | error e => exact h
  | ok a => exact hQ a h

theorem bind {Q : β → Prop} {f : α → Except ε β} (h : Yields stops P x)
    (hf : ∀ a, P a → Yields stops Q (f a)) : Yields stops Q (x >>= f) := by
  cases x with
  | error e => exact h
  | ok a => exact hf a h

theorem foldlM {P : σ → Prop} {step : σ → α → Except ε σ} {l : List α}
    (hstep : ∀ s, P s → ∀ a ∈ l, Yields stops P (step s a)) {s : σ} (h : P s) :
    Yields stops P (l.foldlM step s) := by
  induction l generalizing s with
  | nil => exact h
  | cons a l ih =>
    rw [List.foldlM_cons]
    exact (hstep s h a List.mem_cons_self).bind fun s' hs' =>
      ih (fun s hs b hb => hstep s hs b (List.mem_cons_of_mem a hb)) hs'

theorem mapM {P : β → Prop} {f : α → Except ε β} {l : List α}
    (h : ∀ a ∈ l, Yields stops P (f a)) :
    Yields stops (fun bs => bs.length = l.length ∧ ∀ b ∈ bs, P b) (l.mapM f) := by
  induction l with
  | nil => exact ⟨rfl, fun b hb => absurd hb List.not_mem_nil⟩
  | cons a l ih =>
    rw [List.mapM_cons]
    refine (h a List.mem_cons_self).bind fun b hb => ?_
    refine (ih fun a' ha' => h a' (List.mem_cons_of_mem a ha')).bind fun bs hbs => ?_
    exact ⟨congrArg Nat.succ hbs.1, List.forall_mem_cons.mpr ⟨hb, hbs.2⟩⟩

end Yields

end

end Dipecs.Library
