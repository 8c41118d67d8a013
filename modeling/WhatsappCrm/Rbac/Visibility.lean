/-
Purpose: The visibility rule for assignable records (`rbac/visibility.ts`), as a predicate and as a `WHERE` fragment,
  and the scope rule of the shared inbox (`conversations/inbox-scope.ts`).
-/
import WhatsappCrm.Lib.Sql
import WhatsappCrm.Tickets.Contract

namespace WhatsappCrm

open Sql

/-- `isVisible`: everything with the permission, otherwise mine and my teams'. -/
def isVisible (record : AssignableRecord) (principal : SessionPrincipal) (readAll : Permission) : Bool :=
  principal.permissions.contains readAll || record.assignedUserId == some principal.userId ||
    record.assignedTeamId.any principal.teamIds.contains

def isUnclaimed (record : AssignableRecord) : Bool := record.assignedUserId.isNone && record.assignedTeamId.isNone

/-- `isVisibleOrUnclaimed`: the rule of the shared inbox. -/
def isVisibleOrUnclaimed (record : AssignableRecord) (principal : SessionPrincipal) (readAll : Permission) : Bool :=
  isVisible record principal readAll || isUnclaimed record

inductive RecordScope where
  | assigned
  | unassigned
  | all

/-- `narrowScope`: without the permission every scope is the caller's own work. -/
def narrowScope (requested : RecordScope) (principal : SessionPrincipal) (readAll : Permission) : RecordScope :=
  if principal.permissions.contains readAll then requested else .assigned

/-- `assignedFilter`: the rule's two branches, without the short-circuit of the permission. -/
def assignedFilter (principal : SessionPrincipal) : Clause AssignableRecord := fun record =>
  (eq record.assignedUserId principal.userId).or (inList record.assignedTeamId principal.teamIds)

/-- `visibilityFilter`: no clause at all for a principal who may see everything. -/
def visibilityFilter (principal : SessionPrincipal) (readAll : Permission) : Option (Clause AssignableRecord) :=
  if principal.permissions.contains readAll then none else some (assignedFilter principal)

def unclaimedFilter : Clause AssignableRecord := fun record =>
  (isNull record.assignedUserId).and (isNull record.assignedTeamId)

/-- `sharedInboxFilter`: a third branch for the pool. -/
def sharedInboxFilter (principal : SessionPrincipal) (readAll : Permission) : Option (Clause AssignableRecord) :=
  (visibilityFilter principal readAll).map fun assigned record => (assigned record).or (unclaimedFilter record)

def inboxScopeFilter (scope : RecordScope) (principal : SessionPrincipal) : Option (Clause AssignableRecord) :=
  match scope with
  | .assigned => some (assignedFilter principal)
  | .unassigned => some unclaimedFilter
  | .all => sharedInboxFilter principal .conversationReadAll

def SessionPrincipal.without (principal : SessionPrincipal) (permission : Permission) : SessionPrincipal :=
  { principal with permissions := principal.permissions.filter (· ≠ permission) }

theorem contains_without (principal : SessionPrincipal) (permission : Permission) :
    (principal.without permission).permissions.contains permission = false := by
  simp [SessionPrincipal.without]

variable {record : AssignableRecord}

theorem isVisible_iff : isVisible record principal readAll = true ↔
      readAll ∈ principal.permissions ∨ record.assignedUserId = some principal.userId ∨
        ∃ teamId ∈ principal.teamIds, record.assignedTeamId = some teamId := by
  simp only [isVisible, Bool.or_eq_true, List.contains_iff_mem, beq_iff_eq, Option.any_eq_true, or_assoc]
  constructor
  · rintro (hall | huser | ⟨teamId, hteam, hmem⟩)
    · exact .inl hall
    · exact .inr (.inl huser)
    · exact .inr (.inr ⟨teamId, by simpa using hmem, hteam⟩)
  · rintro (hall | huser | ⟨teamId, hmem, hteam⟩)
    · exact .inl hall
    · exact .inr (.inl huser)
    · exact .inr (.inr ⟨teamId, hteam, by simpa using hmem⟩)

theorem isUnclaimed_iff : isUnclaimed record = true ↔ record.assignedUserId = none ∧ record.assignedTeamId = none := by
  simp [isUnclaimed]

theorem selects_assignedFilter (record : AssignableRecord) (principal : SessionPrincipal) (readAll : Permission) :
    (assignedFilter principal).selects record = isVisible record (principal.without readAll) readAll := by
  rw [Bool.eq_iff_iff, isVisible_iff]
  have hnot : readAll ∉ (principal.without readAll).permissions := by
    simpa using contains_without principal readAll
  simp only [Clause.selects, assignedFilter, Truth.isTrue_or, Bool.or_eq_true, isTrue_eq, isTrue_inList, hnot,
    false_or]
  rfl

theorem selects_assignedFilter_of_not (h : principal.permissions.contains readAll = false) (record : AssignableRecord) :
    (assignedFilter principal).selects record = isVisible record principal readAll := by
  have hwithout : isVisible record (principal.without readAll) readAll = isVisible record principal readAll := by
    simp only [isVisible, contains_without, h]
    rfl
  rw [selects_assignedFilter record principal readAll, hwithout]

theorem isVisible_of_contains (h : principal.permissions.contains readAll = true) (record : AssignableRecord) :
    isVisible record principal readAll = true := by
  simp only [isVisible, h, Bool.true_or]

theorem selects_visibilityFilter (record : AssignableRecord) (principal : SessionPrincipal) (readAll : Permission) :
    (Clause.optional (visibilityFilter principal readAll)).selects record = isVisible record principal readAll := by
  unfold visibilityFilter
  cases hall : principal.permissions.contains readAll with
  | true => exact (isVisible_of_contains hall record).symm
  | false => exact selects_assignedFilter_of_not hall record

theorem selects_unclaimedFilter (record : AssignableRecord) : unclaimedFilter.selects record = isUnclaimed record := by
  rw [Bool.eq_iff_iff, isUnclaimed_iff]
  simp [Clause.selects, unclaimedFilter]

theorem selects_sharedInboxFilter (record : AssignableRecord) (principal : SessionPrincipal) (readAll : Permission) :
    (Clause.optional (sharedInboxFilter principal readAll)).selects record =
      isVisibleOrUnclaimed record principal readAll := by
  unfold isVisibleOrUnclaimed sharedInboxFilter visibilityFilter
  cases hall : principal.permissions.contains readAll with
  | true => simp [Clause.selects, Clause.optional, isVisible_of_contains hall record]
  | false =>
    rw [← selects_assignedFilter_of_not hall record, ← selects_unclaimedFilter record]
    exact Truth.isTrue_or _ _

theorem isVisible_of_assignedFilter (readAll : Permission)
    (h : (assignedFilter principal).selects record = true) : isVisible record principal readAll = true := by
  rw [selects_assignedFilter record principal readAll, isVisible_iff] at h
  rw [isVisible_iff]
  rcases h with hall | h
  · exact .inl (List.mem_filter.mp hall).1
  · exact .inr h

end WhatsappCrm
