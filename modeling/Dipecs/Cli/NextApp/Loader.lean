import Dipecs.Agent.Predictive.Types
import Dipecs.Library.Folds
import Dipecs.Library.Grouping
import Dipecs.Library.MachineInt
import Mathlib.Data.List.DropRight
import Mathlib.Data.Prod.Lex

/-! Example construction from LSApp records: per user, in session order, with the label from
the same session and the history from all of them. -/

namespace Dipecs.Cli.NextApp

open Dipecs.Agent.Predictive Dipecs.Library

structure LsAppRecord where
  userId : String
  sessionId : String
  timestampMs : Int
  appName : String
  eventType : String
  ordinal : Nat
  deriving DecidableEq

def sessionStartTimes (records : List LsAppRecord) : SortedMap String Int :=
  records.foldl
    (fun starts record => starts.upsert record.sessionId fun start =>
      (start.map (min · record.timestampMs)).getD record.timestampMs)
    .empty

def recordKey (sessionStartMs : SortedMap String Int) (record : LsAppRecord) :
    Int ×ₗ String ×ₗ Int ×ₗ Nat :=
  toLex ((sessionStartMs.get record.sessionId).getD 0,
    toLex (record.sessionId, toLex (record.timestampMs, record.ordinal)))

def recordLe (sessionStartMs : SortedMap String Int) (a b : LsAppRecord) : Bool :=
  recordKey sessionStartMs a ≤ recordKey sessionStartMs b

def sessionOrder (records : List LsAppRecord) : List LsAppRecord :=
  records.mergeSort (recordLe (sessionStartTimes records))

/-- `horizon_secs as i64 * 1000`. -/
def horizonMs (horizonSecs : UInt64) : Int := i64 (i64 horizonSecs.toNat * 1000)

def nextLabelRecord (records : List LsAppRecord) (idx : Nat) (horizonSecs : UInt64) :
    Option LsAppRecord := do
  let current ← records[idx]?
  (((records.drop (idx + 1)).takeWhile fun candidate =>
      candidate.sessionId = current.sessionId).takeWhile fun candidate =>
      i64 (candidate.timestampMs - current.timestampMs) ≤ horizonMs horizonSecs).find?
    fun candidate => candidate.appName ≠ current.appName

def pushHistory (history : List String) (app : String) (historyLen : Nat) : List String :=
  (history ++ [app]).rtake historyLen

def exampleStep (userId : String) (records : List LsAppRecord) (horizonSecs : UInt64)
    (historyLen : Nat) (s : List String × List NextAppTrainingExample) (idx : Nat) :
    List String × List NextAppTrainingExample :=
  match records[idx]? with
  | none => s
  | some current =>
    let examples := match nextLabelRecord records idx horizonSecs with
      | none => s.2
      | some next =>
        if current.appName ≠ next.appName then
          s.2 ++ [{
            userId := userId
            currentApp := current.appName
            history := s.1
            hourBucket := hourBucket current.timestampMs
            weekday := weekday current.timestampMs
            eventType := current.eventType
            labelApp := next.appName }]
        else s.2
    (pushHistory s.1 current.appName historyLen, examples)

def userExamples (horizonSecs : UInt64) (historyLen : Nat) (userId : String)
    (records : List LsAppRecord) : List NextAppTrainingExample :=
  let records := sessionOrder records
  ((List.range (records.length - 1)).foldl
    (exampleStep userId records horizonSecs historyLen) ([], [])).2

def loadExamples (records : List LsAppRecord) (horizonSecs : UInt64) (historyLen : Nat) :
    Except String (List NextAppTrainingExample) :=
  if records.length < 2 then .error "LSApp input has fewer than two records"
  else .ok ((SortedMap.group (·.userId) records).entries.flatMap fun (userId, records) =>
    userExamples horizonSecs historyLen userId records)

section order
variable (records : List LsAppRecord)

theorem sessionOrder_perm : (sessionOrder records).Perm records := List.mergeSort_perm _ _

theorem sessionOrder_pairwise :
    (sessionOrder records).Pairwise fun a b =>
      recordKey (sessionStartTimes records) a ≤ recordKey (sessionStartTimes records) b := by
  refine (List.pairwise_mergeSort (fun a b c hab hbc => ?_) (fun a b => ?_) records).imp
    of_decide_eq_true
  · exact decide_eq_true ((of_decide_eq_true hab).trans (of_decide_eq_true hbc))
  · simpa [recordLe] using le_total _ _

theorem sessionOrder_eq_self {records : List LsAppRecord}
    (h : records.Pairwise fun a b => recordLe (sessionStartTimes records) a b = true) :
    sessionOrder records = records := List.mergeSort_of_pairwise h

theorem le_of_recordKey_le {starts : SortedMap String Int} {a b : LsAppRecord}
    (hsession : a.sessionId = b.sessionId) (h : recordKey starts a ≤ recordKey starts b) :
    a.timestampMs ≤ b.timestampMs := by
  simp only [recordKey, hsession, Prod.Lex.toLex_le_toLex, lt_irrefl, true_and, false_or] at h
  exact h.elim le_of_lt fun h => h.1.le

theorem sessionStartTimes_get (sessionId : String) :
    (∃ r ∈ records, r.sessionId = sessionId ∧
      (sessionStartTimes records).get sessionId = some r.timestampMs) ∨
    ((∀ r ∈ records, r.sessionId ≠ sessionId) ∧
      (sessionStartTimes records).get sessionId = none) := by
  refine foldl_history
    (fun pre (starts : SortedMap String Int) =>
      (∃ r ∈ pre, r.sessionId = sessionId ∧ starts.get sessionId = some r.timestampMs) ∨
        ((∀ r ∈ pre, r.sessionId ≠ sessionId) ∧ starts.get sessionId = none))
    (fun pre starts x h => ?_) (.inr ⟨nofun, SortedMap.get_empty _⟩) records
  have hx : x ∈ pre ++ [x] := by simp
  rw [SortedMap.get_upsert]
  by_cases hsession : sessionId = x.sessionId
  · subst hsession
    rw [if_pos rfl]
    obtain ⟨r, hr, hrsession, hget⟩ | ⟨-, hget⟩ := h
    · rw [hget, Option.map_some, Option.getD_some]
      rcases min_choice r.timestampMs x.timestampMs with hmin | hmin
      · exact .inl ⟨r, List.mem_append_left _ hr, hrsession, by rw [hmin]⟩
      · exact .inl ⟨x, hx, rfl, by rw [hmin]⟩
    · rw [hget]
      exact .inl ⟨x, hx, rfl, rfl⟩
  · rw [if_neg hsession]
    refine h.imp (fun ⟨r, hr, hget⟩ => ⟨r, List.mem_append_left _ hr, hget⟩)
      (And.imp_left fun hnone r hr => ?_)
    rcases List.mem_append.mp hr with hr | hr
    · exact hnone r hr
    · rw [List.mem_singleton.mp hr]
      exact Ne.symm hsession

theorem exists_start {records : List LsAppRecord} {r : LsAppRecord} (hr : r ∈ records) :
    ∃ a ∈ records, a.sessionId = r.sessionId ∧
      ((sessionStartTimes records).get r.sessionId).getD 0 = a.timestampMs := by
  obtain ⟨a, ha, hsession, hget⟩ | ⟨hnone, -⟩ := sessionStartTimes_get records r.sessionId
  · exact ⟨a, ha, hsession, by rw [hget, Option.getD_some]⟩
  · exact absurd rfl (hnone r hr)

end order

theorem find?_takeWhile_eq_some {α : Type} {p q : α → Bool} {l : List α} {x : α}
    (h : (l.takeWhile p).find? q = some x) :
    ∃ before after, l = before ++ x :: after ∧ (∀ y ∈ before, p y = true ∧ q y = false) ∧
      p x = true ∧ q x = true := by
  obtain ⟨hx, before, after, hsplit, hbefore⟩ := List.find?_eq_some_iff_append.mp h
  obtain ⟨tail, htail⟩ := List.takeWhile_prefix (l := l) p
  have hall : ∀ y ∈ before ++ x :: after, p y = true := fun y hy =>
    List.mem_takeWhile_imp (hsplit ▸ hy)
  refine ⟨before, after ++ tail, ?_, fun y hy => ⟨?_, by simpa using hbefore y hy⟩, ?_, hx⟩
  · rw [← htail, hsplit, List.append_assoc, List.cons_append]
  · exact hall y (List.mem_append_left _ hy)
  · exact hall x (by simp)

theorem nextLabelRecord_eq_some {records : List LsAppRecord} {idx : Nat} {horizonSecs : UInt64}
    {current next : LsAppRecord} (hcurrent : records[idx]? = some current)
    (h : nextLabelRecord records idx horizonSecs = some next) :
    ∃ between rest, records = records.take idx ++ current :: (between ++ next :: rest) ∧
      (∀ r ∈ between, r.sessionId = current.sessionId ∧ r.appName = current.appName) ∧
      next.sessionId = current.sessionId ∧ next.appName ≠ current.appName ∧
      i64 (next.timestampMs - current.timestampMs) ≤ horizonMs horizonSecs := by
  rw [nextLabelRecord, hcurrent] at h
  change List.find? _ _ = some next at h
  rw [List.takeWhile_takeWhile] at h
  obtain ⟨between, rest, hdrop, hbetween, hnext, happ⟩ := find?_takeWhile_eq_some h
  obtain ⟨hlt, hget⟩ := List.getElem?_eq_some_iff.mp hcurrent
  have hnext := of_decide_eq_true hnext
  refine ⟨between, rest, ?_, fun r hr => ?_, of_decide_eq_true hnext.2, of_decide_eq_true happ,
    of_decide_eq_true hnext.1⟩
  · rw [← hdrop, ← hget, ← List.drop_eq_getElem_cons hlt, List.take_append_drop]
  · obtain ⟨hsession, hother⟩ := hbetween r hr
    exact ⟨of_decide_eq_true (of_decide_eq_true hsession).2, by simpa using hother⟩

end Dipecs.Cli.NextApp
