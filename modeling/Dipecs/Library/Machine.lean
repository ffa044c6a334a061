import Mathlib.Data.List.Basic
import Mathlib.Data.List.Forall2

/-! Machines that consume inputs one at a time and emit outputs: the runs of such a
machine, and the rules by which a fact about one step becomes a fact about every run. -/

namespace Dipecs.Library

def EachAfter {α : Type} (P : List α → α → Prop) (l : List α) : Prop :=
  ∀ before a after, l = before ++ a :: after → P before a

theorem EachAfter.nil {α : Type} (P : List α → α → Prop) : EachAfter P [] := by
  intro before a after h
  simp at h

theorem EachAfter.concat {α : Type} {P : List α → α → Prop} {l : List α} {x : α}
    (hl : EachAfter P l) (hx : P l x) : EachAfter P (l ++ [x]) := by
  intro before a after h
  rcases List.eq_nil_or_concat after with rfl | ⟨after, y, rfl⟩
  · obtain ⟨rfl, hlast⟩ := List.append_inj' h rfl
    cases hlast
    exact hx
  · rw [List.concat_eq_append, ← List.cons_append, ← List.append_assoc] at h
    exact hl before a after (List.append_inj' h rfl).1

structure Machine (σ ι ο : Type) where
  step : σ → ι → σ × List ο

namespace Machine

variable {σ ι ο : Type}

/-- The state after a list of inputs, and everything emitted on the way. -/
def run (m : Machine σ ι ο) (s : σ) : List ι → σ × List ο
  | [] => (s, [])
  | x :: xs => ((m.run (m.step s x).1 xs).1, (m.step s x).2 ++ (m.run (m.step s x).1 xs).2)

/-- Every step of the run meets `ok` in the state it starts from. -/
def Along (m : Machine σ ι ο) (ok : σ → ι → Prop) : σ → List ι → Prop
  | _, [] => True
  | s, x :: xs => ok s x ∧ m.Along ok (m.step s x).1 xs

instance decidableAlong (m : Machine σ ι ο) (ok : σ → ι → Prop) [∀ s x, Decidable (ok s x)] :
    ∀ s xs, Decidable (m.Along ok s xs)
  | _, [] => .isTrue trivial
  | s, x :: xs =>
    have := decidableAlong m ok (m.step s x).1 xs
    inferInstanceAs (Decidable (ok s x ∧ m.Along ok (m.step s x).1 xs))

/-- Two runs in lockstep, in which every pair of steps meets `ok` in the two states it
starts from. -/
def Along₂ (m : Machine σ ι ο) (ok : σ → σ → ι → ι → Prop) : σ → σ → List ι → List ι → Prop
  | _, _, [], [] => True
  | s, t, x :: xs, y :: ys =>
    ok s t x y ∧ m.Along₂ ok (m.step s x).1 (m.step t y).1 xs ys
  | _, _, _, _ => False

variable (m : Machine σ ι ο)

@[simp] theorem run_nil (s : σ) : m.run s [] = (s, []) := rfl

theorem run_cons (s : σ) (x : ι) (xs : List ι) :
    m.run s (x :: xs) =
      ((m.run (m.step s x).1 xs).1, (m.step s x).2 ++ (m.run (m.step s x).1 xs).2) := rfl

@[simp] theorem along_true (s : σ) (xs : List ι) : m.Along (fun _ _ => True) s xs := by
  induction xs generalizing s with
  | nil => trivial
  | cons x xs ih => exact ⟨trivial, ih _⟩

theorem along_of_forall {P : ι → Prop} {xs : List ι} (h : ∀ x ∈ xs, P x) (s : σ) :
    m.Along (fun _ x => P x) s xs := by
  induction xs generalizing s with
  | nil => trivial
  | cons x xs ih =>
    exact ⟨h x List.mem_cons_self, ih (fun y hy => h y (List.mem_cons_of_mem x hy)) _⟩

theorem along_congr {ok ok' : σ → ι → Prop} (h : ∀ s x, ok s x ↔ ok' s x) {s : σ}
    {xs : List ι} : m.Along ok s xs ↔ m.Along ok' s xs := by
  induction xs generalizing s with
  | nil => rfl
  | cons x xs ih => exact and_congr (h s x) ih

theorem along_take {ok : σ → ι → Prop} {s : σ} {xs : List ι} (h : m.Along ok s xs) (k : Nat) :
    m.Along ok s (xs.take k) := by
  induction xs generalizing s k with
  | nil => simpa using h
  | cons x xs ih =>
    cases k with
    | zero => trivial
    | succ k => exact ⟨h.1, ih h.2 k⟩

theorem run_stateless {f : ι → List ο} (h : ∀ s x, (m.step s x).2 = f x) (s : σ)
    (xs : List ι) : (m.run s xs).2 = xs.flatMap f := by
  induction xs generalizing s with
  | nil => rfl
  | cons x xs ih => rw [run_cons, h, ih, List.flatMap_cons]

section
variable {m} {ok : σ → ι → Prop} (Inv : List ι → List ο → σ → Prop)

theorem run_history_from
    (hstep : ∀ pre out s x, Inv pre out s → ok s x →
      Inv (pre ++ [x]) (out ++ (m.step s x).2) (m.step s x).1)
    {pre : List ι} {out : List ο} {s : σ} (h : Inv pre out s) {xs : List ι}
    (hxs : m.Along ok s xs) :
    Inv (pre ++ xs) (out ++ (m.run s xs).2) (m.run s xs).1 := by
  induction xs generalizing pre out s with
  | nil => simpa using h
  | cons x xs ih =>
    have := ih (hstep pre out s x h hxs.1) hxs.2
    simpa [run_cons] using this

/-- Invariant rule with history: what each step keeps of the inputs consumed, the
outputs emitted and the state holds at the end of every run. -/
theorem run_history
    (hstep : ∀ pre out s x, Inv pre out s → ok s x →
      Inv (pre ++ [x]) (out ++ (m.step s x).2) (m.step s x).1)
    {s : σ} (h : Inv [] [] s) {xs : List ι} (hxs : m.Along ok s xs) :
    Inv xs (m.run s xs).2 (m.run s xs).1 :=
  run_history_from Inv hstep h hxs

end

/-- Exact condition rule: if a step from a good state leads to a good state just when it
meets `ok`, all states of a run are good just when its steps meet `ok`. -/
theorem run_take_iff {m : Machine σ ι ο} {ok : σ → ι → Prop} {P : σ → Prop}
    (hstep : ∀ s x, P s → (ok s x ↔ P (m.step s x).1)) {s : σ} (h : P s) (xs : List ι) :
    (∀ k, P (m.run s (xs.take k)).1) ↔ m.Along ok s xs := by
  induction xs generalizing s with
  | nil => simp [h, Along]
  | cons x xs ih =>
    constructor
    · intro hall
      have hnext : P (m.step s x).1 := by simpa [run_cons] using hall 1
      refine ⟨(hstep s x h).mpr hnext, (ih hnext).mp fun k => ?_⟩
      simpa [run_cons] using hall (k + 1)
    · rintro ⟨hok, halong⟩ k
      have hnext := (hstep s x h).mp hok
      cases k with
      | zero => exact h
      | succ k =>
        rw [List.take_succ_cons, run_cons]
        exact (ih hnext).mpr halong k

theorem run_take_iff_history_from {m : Machine σ ι ο} {ok : σ → ι → Prop}
    {P : List ο → σ → Prop}
    (hstep : ∀ out s x, P out s → (ok s x ↔ P (out ++ (m.step s x).2) (m.step s x).1))
    {out : List ο} {s : σ} (h : P out s) (xs : List ι) :
    (∀ k, P (out ++ (m.run s (xs.take k)).2) (m.run s (xs.take k)).1) ↔ m.Along ok s xs := by
  induction xs generalizing out s with
  | nil => simp [h, Along]
  | cons x xs ih =>
    constructor
    · intro hall
      have hnext : P (out ++ (m.step s x).2) (m.step s x).1 := by simpa [run_cons] using hall 1
      refine ⟨(hstep out s x h).mpr hnext, (ih hnext).mp fun k => ?_⟩
      simpa [run_cons] using hall (k + 1)
    · rintro ⟨hok, halong⟩ k
      cases k with
      | zero => simpa using h
      | succ k =>
        rw [List.take_succ_cons, run_cons, ← List.append_assoc]
        exact (ih ((hstep out s x h).mp hok)).mpr halong k

/-- Exact condition rule with history: the same where what is good depends on the outputs
emitted so far. -/
theorem run_take_iff_history {m : Machine σ ι ο} {ok : σ → ι → Prop} {P : List ο → σ → Prop}
    (hstep : ∀ out s x, P out s → (ok s x ↔ P (out ++ (m.step s x).2) (m.step s x).1))
    {s : σ} (h : P [] s) (xs : List ι) :
    (∀ k, P (m.run s (xs.take k)).2 (m.run s (xs.take k)).1) ↔ m.Along ok s xs :=
  run_take_iff_history_from hstep h xs

/-- Output rule: a machine that answers each input of a list with one related output
answers the list with a related list. -/
theorem run_forall₂ {R : ι → ο → Prop} {xs : List ι}
    (hstep : ∀ s, ∀ x ∈ xs, ∃ y, (m.step s x).2 = [y] ∧ R x y) (s : σ) :
    List.Forall₂ R xs (m.run s xs).2 := by
  induction xs generalizing s with
  | nil => exact .nil
  | cons x xs ih =>
    obtain ⟨y, hy, hR⟩ := hstep s x (by simp)
    rw [run_cons, hy]
    exact .cons hR (ih (fun s x hx => hstep s x (by simp [hx])) _)

/-- Two-run rule: steps that keep two states related and emit related outputs on related
inputs make two runs on related lists of inputs that emit related lists. -/
theorem run_related {τ ι' ο' : Type} {m : Machine σ ι ο} {m' : Machine τ ι' ο'}
    {R : σ → τ → Prop} {rel : ι → ι' → Prop} {S : ο → ο' → Prop}
    (hstep : ∀ s t x y, R s t → rel x y →
      R (m.step s x).1 (m'.step t y).1 ∧ List.Forall₂ S (m.step s x).2 (m'.step t y).2)
    {s : σ} {t : τ} (h : R s t) {xs : List ι} {ys : List ι'} (hrel : List.Forall₂ rel xs ys) :
    R (m.run s xs).1 (m'.run t ys).1 ∧ List.Forall₂ S (m.run s xs).2 (m'.run t ys).2 := by
  induction hrel generalizing s t with
  | nil => exact ⟨h, .nil⟩
  | cons hxy _ ih =>
    obtain ⟨hR, hout⟩ := hstep _ _ _ _ h hxy
    obtain ⟨hR', hout'⟩ := ih hR
    exact ⟨hR', List.rel_append hout hout'⟩

/-- Projection rule: two machines with the same states, of which one emits what the other's
outputs show of it. -/
theorem run_projects {ο' : Type} (m : Machine σ ι ο) (m' : Machine σ ι ο') {p : ο → Bool}
    {f : ο' → ο}
    (hstep : ∀ s x, (m.step s x).1 = (m'.step s x).1 ∧
      (m.step s x).2.filter p = (m'.step s x).2.map f) (s : σ) (xs : List ι) :
    (m.run s xs).1 = (m'.run s xs).1 ∧ (m.run s xs).2.filter p = (m'.run s xs).2.map f := by
  induction xs generalizing s with
  | nil => exact ⟨rfl, rfl⟩
  | cons x xs ih =>
    obtain ⟨hstate, hout⟩ := hstep s x
    obtain ⟨hstate', hout'⟩ := ih (m.step s x).1
    rw [run_cons, run_cons, List.filter_append, hout, hout', List.map_append, ← hstate]
    exact ⟨hstate', rfl⟩

/-- Simulation rule: related states that answer each input alike, up to `f`, answer
every list of inputs alike. -/
theorem run_simulates {τ ο' : Type} {m : Machine σ ι ο} {m' : Machine τ ι ο'} {f : ο' → ο}
    {R : σ → τ → Prop} {ok : σ → ι → Prop}
    (hstep : ∀ s t x, R s t → ok s x →
      R (m.step s x).1 (m'.step t x).1 ∧ (m.step s x).2 = (m'.step t x).2.map f)
    {s : σ} {t : τ} (h : R s t) {xs : List ι} (hxs : m.Along ok s xs) :
    R (m.run s xs).1 (m'.run t xs).1 ∧ (m.run s xs).2 = (m'.run t xs).2.map f := by
  induction xs generalizing s t with
  | nil => exact ⟨h, rfl⟩
  | cons x xs ih =>
    obtain ⟨hR, hout⟩ := hstep s t x h hxs.1
    obtain ⟨hR', hout'⟩ := ih hR hxs.2
    refine ⟨hR', ?_⟩
    rw [run_cons, run_cons, hout, hout', List.map_append]

theorem Along₂.of_along {m : Machine σ ι ο} {ok : σ → ι → Prop} {rel : ι → ι → Prop}
    {s t : σ} {xs ys : List ι} (h : m.Along ok s xs) (hrel : List.Forall₂ rel xs ys) :
    m.Along₂ (fun s _ x y => ok s x ∧ rel x y) s t xs ys := by
  induction hrel generalizing s t with
  | nil => trivial
  | cons hxy _ ih => exact ⟨⟨h.1, hxy⟩, ih h.2⟩

/-- Noninterference rule: steps that keep two states related and emit the same outputs
make two runs that emit the same outputs. -/
theorem run_noninterference {m : Machine σ ι ο} {R : σ → σ → Prop}
    {ok : σ → σ → ι → ι → Prop}
    (hstep : ∀ s t x y, R s t → ok s t x y →
      R (m.step s x).1 (m.step t y).1 ∧ (m.step s x).2 = (m.step t y).2)
    {s t : σ} (h : R s t) {xs ys : List ι} (hxs : m.Along₂ ok s t xs ys) :
    R (m.run s xs).1 (m.run t ys).1 ∧ (m.run s xs).2 = (m.run t ys).2 := by
  induction xs generalizing s t ys with
  | nil =>
    cases ys with
    | nil => exact ⟨h, rfl⟩
    | cons y ys => exact hxs.elim
  | cons x xs ih =>
    cases ys with
    | nil => exact hxs.elim
    | cons y ys =>
      obtain ⟨hR, hout⟩ := hstep s t x y h hxs.1
      obtain ⟨hR', hout'⟩ := ih hR hxs.2
      refine ⟨hR', ?_⟩
      rw [run_cons, run_cons, hout, hout']

/-- Completeness rule: if a pair of steps that fails the condition cannot be continued to
the same outputs, two runs with the same outputs meet the condition at every step. -/
theorem along_of_run_eq {m : Machine σ ι ο} {R : σ → σ → Prop} {ok : σ → ι → Prop}
    {rel : ι → ι → Prop}
    (hsame : ∀ s t x y, R s t → ok s x → rel x y →
      R (m.step s x).1 (m.step t y).1 ∧ (m.step s x).2 = (m.step t y).2)
    (hdiffer : ∀ s t x y, R s t → ¬ok s x → rel x y →
      ∀ rest rest', (m.step s x).2 ++ rest ≠ (m.step t y).2 ++ rest')
    {s t : σ} (h : R s t) {xs ys : List ι} (hrel : List.Forall₂ rel xs ys)
    (hout : (m.run s xs).2 = (m.run t ys).2) : m.Along ok s xs := by
  induction hrel generalizing s t with
  | nil => trivial
  | @cons x y xs ys hxy _ ih =>
    rw [run_cons, run_cons] at hout
    dsimp only at hout
    by_cases hok : ok s x
    · obtain ⟨hR, hstep⟩ := hsame s t x y h hok hxy
      rw [hstep, List.append_cancel_left_eq] at hout
      exact ⟨hok, ih hR hout⟩
    · exact absurd hout (hdiffer s t x y h hok hxy _ _)

end Machine

end Dipecs.Library
