import Dipecs.Agent.Predictive.Types
import Dipecs.Library.Grouping
import Dipecs.Library.Utf8
import Mathlib.Data.List.Perm.Basic

/-! The train/test split strategies of the next-app evaluation.  `F` carries `f32`. -/

namespace Dipecs.Cli.NextApp

open Dipecs.Agent.Predictive Dipecs.Library

variable {F : Type}

/-- The `f32` arithmetic of the cutoff. -/
structure CutoffOps (F : Type) where
  /-- `as f32`. -/
  ofUsize : Nat → F
  /-- `* 0.8`. -/
  fourFifths : F → F
  floor : F → F
  /-- `as usize`. -/
  toUsize : F → Nat

def CutoffOps.trainCount (ops : CutoffOps F) (n : Nat) : Nat :=
  let cutoff := ops.toUsize (ops.floor (ops.fourFifths (ops.ofUsize n)))
  max cutoff 1

inductive NextAppSplit
  | standard
  | coldStart

abbrev Parts := List NextAppTrainingExample × List NextAppTrainingExample

def Parts.push (parts : Parts) (train : Bool) (example_ : NextAppTrainingExample) : Parts :=
  if train then (parts.1 ++ [example_], parts.2) else (parts.1, parts.2 ++ [example_])

def splitUser (ops : CutoffOps F) (parts : Parts) (userExamples : List NextAppTrainingExample) :
    Parts :=
  userExamples.zipIdx.foldl
    (fun parts (e, idx) => parts.push (idx < ops.trainCount userExamples.length) e) parts

def splitStandard (ops : CutoffOps F) (examples : List NextAppTrainingExample) : Parts :=
  (SortedMap.group (·.userId) examples).entries.foldl
    (fun parts (_, userExamples) => splitUser ops parts userExamples) ([], [])

def fnvOffset : UInt64 := 14695981039346656037

def fnvPrime : UInt64 := 1099511628211

def seed : List UInt8 := Utf8.encode "dipecs-next-app-cold-start-v1".toList

def stableUserSplitHash (userId : String) : UInt64 :=
  (seed ++ [0] ++ Utf8.encode userId.toList).foldl
    (fun hash (byte : UInt8) => (hash ^^^ byte.toUInt64) * fnvPrime) fnvOffset

def userLe (a b : String) : Bool :=
  stableUserSplitHash a < stableUserSplitHash b ||
    stableUserSplitHash a = stableUserSplitHash b && a ≤ b

def rankedUsers (users : List String) : List String := users.mergeSort userLe

def trainUsers (ops : CutoffOps F) (users : List String) : List String :=
  SortedMap.setOf ((rankedUsers users).take (ops.trainCount users.length))

def splitColdStart (ops : CutoffOps F) (examples : List NextAppTrainingExample) : Parts :=
  let users := SortedMap.setOf (examples.map (·.userId))
  examples.foldl (fun parts e => parts.push (e.userId ∈ trainUsers ops users) e) ([], [])

def splitExamples (ops : CutoffOps F) (examples : List NextAppTrainingExample) :
    NextAppSplit → Parts
  | .standard => splitStandard ops examples
  | .coldStart => splitColdStart ops examples

def ofUser (user : String) (examples : List NextAppTrainingExample) :
    List NextAppTrainingExample :=
  examples.filter fun e => e.userId = user

def usersOf (examples : List NextAppTrainingExample) : List String :=
  SortedMap.setOf (examples.map (·.userId))

section standard
variable (ops : CutoffOps F)

theorem foldl_push_zipIdx (n : Nat) (examples : List NextAppTrainingExample) (k : Nat)
    (parts : Parts) :
    (examples.zipIdx k).foldl (fun parts (e, idx) => Parts.push parts (idx < n) e) parts =
      (parts.1 ++ examples.take (n - k), parts.2 ++ examples.drop (n - k)) := by
  induction examples generalizing k parts with
  | nil => simp
  | cons e examples ih =>
    rw [List.zipIdx_cons, List.foldl_cons, ih]
    by_cases hk : k < n
    · have hsucc : n - k = n - (k + 1) + 1 := by omega
      simp [Parts.push, hk, hsucc]
    · have hzero : n - k = 0 := by omega
      have hzero' : n - (k + 1) = 0 := by omega
      simp [Parts.push, hk, hzero, hzero']

def userCount (examples : List NextAppTrainingExample) (user : String) : Nat :=
  ops.trainCount (ofUser user examples).length

theorem splitStandard_eq (examples : List NextAppTrainingExample) :
    splitStandard ops examples =
      ((usersOf examples).flatMap fun user =>
          (ofUser user examples).take (userCount ops examples user),
        (usersOf examples).flatMap fun user =>
          (ofUser user examples).drop (userCount ops examples user)) := by
  have hfold : ∀ (users : List String) (parts : Parts),
      users.foldl (fun parts user => splitUser ops parts (ofUser user examples)) parts =
        (parts.1 ++ users.flatMap fun user =>
            (ofUser user examples).take (userCount ops examples user),
          parts.2 ++ users.flatMap fun user =>
            (ofUser user examples).drop (userCount ops examples user)) := by
    intro users
    induction users with
    | nil => simp
    | cons user users ih =>
      intro parts
      rw [List.foldl_cons, ih, splitUser, foldl_push_zipIdx]
      simp [userCount]
  rw [splitStandard, SortedMap.entries_group, List.foldl_map]
  exact (hfold (usersOf examples) ([], [])).trans (by simp)

theorem splitStandard_perm (examples : List NextAppTrainingExample) :
    ((splitStandard ops examples).1 ++ (splitStandard ops examples).2).Perm examples := by
  rw [splitStandard_eq]
  refine (List.flatMap_append_perm _ _ _).trans ?_
  simp only [List.take_append_drop]
  exact SortedMap.flatMap_filter_perm _ (SortedMap.nodup_setOf _) fun e he =>
    SortedMap.mem_setOf.mpr (List.mem_map_of_mem he)

theorem ofUser_flatMap (part : List NextAppTrainingExample → List NextAppTrainingExample)
    (hpart : ∀ l, part l ⊆ l) (examples : List NextAppTrainingExample) (user : String) :
    ofUser user ((usersOf examples).flatMap fun user => part (ofUser user examples)) =
      part (ofUser user examples) := by
  have hkey : ∀ k, ∀ e ∈ part (ofUser k examples), e.userId = k := fun k e he =>
    of_decide_eq_true (List.mem_filter.mp (hpart _ he)).2
  refine (SortedMap.filter_flatMap_key NextAppTrainingExample.userId (SortedMap.nodup_setOf _)
    hkey user).trans ?_
  split
  · rfl
  · rename_i hnot
    have hnil : ofUser user examples = [] :=
      List.filter_eq_nil_iff.mpr fun e he h => hnot (SortedMap.mem_setOf.mpr
        (List.mem_map.mpr ⟨e, he, of_decide_eq_true h⟩))
    exact (List.subset_nil.mp (hnil ▸ hpart (ofUser user examples))).symm

theorem trainCount_pos (n : Nat) : 0 < ops.trainCount n := lt_max_of_lt_right Nat.one_pos

end standard

section coldStart
variable (ops : CutoffOps F)

theorem foldl_push (p : NextAppTrainingExample → Bool) (examples : List NextAppTrainingExample)
    (parts : Parts) :
    examples.foldl (fun parts e => Parts.push parts (p e) e) parts =
      (parts.1 ++ examples.filter p, parts.2 ++ examples.filter fun e => !p e) := by
  induction examples generalizing parts with
  | nil => simp
  | cons e examples ih =>
    rw [List.foldl_cons, ih]
    cases h : p e <;> simp [Parts.push, h]

theorem splitColdStart_eq (examples : List NextAppTrainingExample) :
    splitColdStart ops examples =
      (examples.filter fun e => e.userId ∈ trainUsers ops (usersOf examples),
        examples.filter fun e => !decide (e.userId ∈ trainUsers ops (usersOf examples))) := by
  rw [splitColdStart, foldl_push]
  rfl

theorem splitColdStart_perm (examples : List NextAppTrainingExample) :
    ((splitColdStart ops examples).1 ++ (splitColdStart ops examples).2).Perm examples := by
  rw [splitColdStart_eq]
  exact List.filter_append_perm _ _

theorem trainUsers_subset (users : List String) : trainUsers ops users ⊆ users := by
  intro user huser
  exact List.mem_mergeSort.mp (List.mem_of_mem_take (SortedMap.mem_setOf.mp huser))

theorem trainUsers_ne_nil {users : List String} (h : users ≠ []) : trainUsers ops users ≠ [] := by
  have hranked : 0 < (rankedUsers users).length := by
    rw [rankedUsers, List.length_mergeSort]
    exact List.length_pos_of_ne_nil h
  have hmem : (rankedUsers users)[0] ∈
      (rankedUsers users).take (ops.trainCount users.length) :=
    List.mem_take_iff_getElem.mpr ⟨0, lt_min (trainCount_pos ops _) hranked, rfl⟩
  exact List.ne_nil_of_mem (SortedMap.mem_setOf.mpr hmem)

theorem mem_coldStart_users {examples : List NextAppTrainingExample} {user : String} :
    (∃ e ∈ (splitColdStart ops examples).1, e.userId = user) ↔
      user ∈ trainUsers ops (usersOf examples) := by
  rw [splitColdStart_eq]
  constructor
  · rintro ⟨e, he, rfl⟩
    exact of_decide_eq_true (List.mem_filter.mp he).2
  · intro h
    obtain ⟨e, he, rfl⟩ :=
      List.mem_map.mp (SortedMap.mem_setOf.mp (trainUsers_subset ops _ h))
    exact ⟨e, List.mem_filter.mpr ⟨he, decide_eq_true h⟩, rfl⟩

end coldStart

/-- Of each user's examples, a first part that is not empty is trained on, the rest tested. -/
structure StandardSplit (examples : List NextAppTrainingExample) (parts : Parts) : Prop where
  inOrder : ∀ user, ofUser user parts.1 ++ ofUser user parts.2 = ofUser user examples
  trained : ∀ e ∈ examples, ofUser e.userId parts.1 ≠ []

/-- No user is in both parts, and somebody is trained on. -/
structure ColdStartSplit (examples : List NextAppTrainingExample) (parts : Parts) : Prop where
  disjoint : ∀ e ∈ parts.1, ∀ e' ∈ parts.2, e.userId ≠ e'.userId
  trained : examples ≠ [] → parts.1 ≠ []

theorem splitStandard_split (ops : CutoffOps F) (examples : List NextAppTrainingExample) :
    StandardSplit examples (splitStandard ops examples) := by
  have htrain : ∀ user, ofUser user (splitStandard ops examples).1 =
      (ofUser user examples).take (userCount ops examples user) := by
    intro user
    rw [splitStandard_eq]
    exact ofUser_flatMap (fun l => l.take (ops.trainCount l.length))
      (fun l => List.take_subset _ l) examples user
  have htest : ∀ user, ofUser user (splitStandard ops examples).2 =
      (ofUser user examples).drop (userCount ops examples user) := by
    intro user
    rw [splitStandard_eq]
    exact ofUser_flatMap (fun l => l.drop (ops.trainCount l.length))
      (fun l => List.drop_subset _ l) examples user
  refine ⟨fun user => ?_, fun e he => ?_⟩
  · rw [htrain, htest, List.take_append_drop]
  · have hmem : e ∈ ofUser e.userId examples := List.mem_filter.mpr ⟨he, by simp⟩
    have hpos : 0 < userCount ops examples e.userId := trainCount_pos ops _
    rw [htrain, Ne, List.take_eq_nil_iff, not_or]
    exact ⟨hpos.ne', List.ne_nil_of_mem hmem⟩

theorem splitColdStart_split (ops : CutoffOps F) (examples : List NextAppTrainingExample) :
    ColdStartSplit examples (splitColdStart ops examples) := by
  refine ⟨fun e he e' he' heq => ?_, fun hne => ?_⟩
  · rw [splitColdStart_eq] at he he'
    have htrain := of_decide_eq_true (List.mem_filter.mp he).2
    have htest := (List.mem_filter.mp he').2
    rw [← heq, decide_eq_true htrain] at htest
    cases htest
  · obtain ⟨e, he⟩ := List.exists_mem_of_ne_nil examples hne
    have husers : usersOf examples ≠ [] :=
      List.ne_nil_of_mem (SortedMap.mem_setOf.mpr (List.mem_map_of_mem he))
    obtain ⟨user, huser⟩ := List.exists_mem_of_ne_nil _ (trainUsers_ne_nil ops husers)
    obtain ⟨e, he, -⟩ := (mem_coldStart_users ops).mpr huser
    exact List.ne_nil_of_mem he

/-- Nothing is lost or doubled; each strategy keeps its promise; and whom a cold start trains
on is a matter of who is in the data. -/
theorem splitExamples_sound (ops : CutoffOps F) (examples : List NextAppTrainingExample) :
    (∀ split, ((splitExamples ops examples split).1 ++
        (splitExamples ops examples split).2).Perm examples) ∧
    StandardSplit examples (splitExamples ops examples .standard) ∧
    ColdStartSplit examples (splitExamples ops examples .coldStart) ∧
    ∀ examples' : List NextAppTrainingExample,
      (∀ user, (∃ e ∈ examples, e.userId = user) ↔ ∃ e ∈ examples', e.userId = user) →
      ∀ user, (∃ e ∈ (splitExamples ops examples .coldStart).1, e.userId = user) ↔
        ∃ e ∈ (splitExamples ops examples' .coldStart).1, e.userId = user := by
  refine ⟨fun split => ?_, splitStandard_split ops examples, splitColdStart_split ops examples,
    fun examples' h user => ?_⟩
  · cases split with
    | standard => exact splitStandard_perm ops examples
    | coldStart => exact splitColdStart_perm ops examples
  · have husers : usersOf examples = usersOf examples' :=
      SortedMap.setOf_congr fun user => by rw [List.mem_map, List.mem_map, h]
    exact (mem_coldStart_users ops).trans (husers ▸ (mem_coldStart_users ops).symm)

end Dipecs.Cli.NextApp
