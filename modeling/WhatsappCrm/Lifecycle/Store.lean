/-
Purpose: The rules of the tenant lifecycle, as data (`packages/contracts`: `tenant.ts`,
  `tenancy/lifecycle/tenant-lifecycle.state.ts`), and the tables its engine writes.
-/
import Mathlib.Tactic.Common
import WhatsappCrm.Tickets.Contract
import WhatsappCrm.Lib.Keyset
import WhatsappCrm.Lib.Table
import WhatsappCrm.Lib.Transaction

namespace WhatsappCrm.Lifecycle

inductive TenantStatus where
  | created
  | trialing
  | active
  | pastDue
  | suspended
  | cancelled
  | deleted
deriving DecidableEq

variable (before after : TenantStatus)

namespace TenantStatus

/-- `TENANT_STATUS_EFFECTS`, the column of outbound traffic. -/
def outboundAllowed : TenantStatus → Bool
  | .trialing | .active | .pastDue => true
  | .created | .suspended | .cancelled | .deleted => false

/-- `TENANT_STATUS_TRANSITIONS`. -/
def transitions : TenantStatus → List TenantStatus
  | .created => [.trialing, .active]
  | .trialing => [.active, .pastDue, .cancelled, .suspended]
  | .active => [.pastDue, .cancelled, .suspended]
  | .pastDue => [.active, .suspended, .cancelled]
  | .suspended => [.active, .cancelled, .deleted]
  | .cancelled => [.active, .suspended]
  | .deleted => []

end TenantStatus

def canTransitionTenant : Bool := before.transitions.contains after

inductive LifecycleTrigger where
  | userAction
  | operatorAction
  | billingEvent
  | timer
  | system
deriving DecidableEq

def trialDays : Nat := 14
def pastDueGraceDays : Nat := 21
def cancelledGraceDays : Nat := 7
def purgeAfterSuspendedDays : Nat := 30

def dayMs : Int := 24 * 60 * 60 * 1000

def daysAfter (now : Millis) (days : Nat) : Millis := now + days * dayMs

def edgeTriggers : Option (List LifecycleTrigger) :=
  match before, after with
  | .created, .trialing => some [.system]
  | .created, .active => some [.system]
  | .trialing, .active => some [.billingEvent, .operatorAction]
  | .trialing, .pastDue => some [.timer, .billingEvent]
  | .trialing, .cancelled => some [.userAction, .operatorAction, .billingEvent]
  | .trialing, .suspended => some [.operatorAction]
  | .active, .pastDue => some [.billingEvent]
  | .active, .cancelled => some [.userAction, .operatorAction, .billingEvent]
  | .active, .suspended => some [.operatorAction]
  | .pastDue, .active => some [.billingEvent, .operatorAction]
  | .pastDue, .suspended => some [.timer, .operatorAction]
  | .pastDue, .cancelled => some [.userAction, .operatorAction, .billingEvent]
  | .suspended, .active => some [.billingEvent, .operatorAction]
  | .suspended, .cancelled => some [.userAction, .operatorAction, .billingEvent]
  | .suspended, .deleted => some [.timer]
  | .cancelled, .active => some [.userAction, .operatorAction, .billingEvent]
  | .cancelled, .suspended => some [.timer, .operatorAction]
  | _, _ => none

theorem edgeTriggers_isSome : (edgeTriggers before after).isSome = canTransitionTenant before after := by
  cases before <;> cases after <;> rfl

inductive TransitionRefusal where
  | edgeNotAllowed
  | triggerNotAllowed

/-- `none` when the transition is legal, otherwise which of the two rules refused it. -/
def refuseTransition (trigger : LifecycleTrigger) : Option TransitionRefusal :=
  if !canTransitionTenant before after then some .edgeNotAllowed
  else if (edgeTriggers before after).any (·.contains trigger) then none
  else some .triggerNotAllowed

theorem refuseTransition_eq_none {before after : TenantStatus} : refuseTransition before after trigger = none ↔
      ∃ triggers, edgeTriggers before after = some triggers ∧ trigger ∈ triggers := by
  rw [refuseTransition, ← edgeTriggers_isSome]
  cases edgeTriggers before after with
  | none | some => simp

theorem not_refused_ne {before after : TenantStatus}
    (h : refuseTransition before after trigger = none) : before ≠ .deleted ∧ after ≠ .created ∧ before ≠ after := by
  obtain ⟨triggers, hedge, _⟩ := refuseTransition_eq_none.mp h
  cases before <;> cases after <;> first | decide | cases hedge

/-- Every column a transition may write, other than the status: `none` leaves it alone, `some none` clears it. -/
structure TimerColumns where
  trialEndsAt : Option (Option Millis) := none
  gracePeriodEndsAt : Option (Option Millis) := none
  suspendedAt : Option (Option Millis) := none
  cancelledAt : Option (Option Millis) := none
  purgeAt : Option (Option Millis) := none
  deletedAt : Option (Option Millis) := none
  trialEndingNotifiedAt : Option (Option Millis) := none
  deletionReminderNotifiedAt : Option (Option Millis) := none

/-- Leaving a state stops the clock that state started. -/
def stoppedClocks : TenantStatus → TimerColumns
  | .trialing => { trialEndsAt := some none, trialEndingNotifiedAt := some none }
  | .pastDue | .cancelled => { gracePeriodEndsAt := some none }
  | .suspended => { purgeAt := some none, deletionReminderNotifiedAt := some none }
  | .created | .active | .deleted => {}

/-- The timer columns an arrival at `after` from `before` writes. -/
def timerColumnsFor (now : Millis) : TimerColumns :=
  let columns := stoppedClocks before
  match after with
  | .trialing =>
    { columns with trialEndsAt := some (daysAfter now trialDays), trialEndingNotifiedAt := some none }
  | .pastDue => { columns with gracePeriodEndsAt := some (daysAfter now pastDueGraceDays) }
  | .cancelled =>
    { columns with
      cancelledAt := some now
      gracePeriodEndsAt := some (daysAfter now cancelledGraceDays) }
  | .suspended =>
    { columns with
      suspendedAt := some now
      purgeAt := some (daysAfter now purgeAfterSuspendedDays)
      deletionReminderNotifiedAt := some none }
  | .deleted =>
    { columns with deletedAt := some now, purgeAt := some none, gracePeriodEndsAt := some none }
  | .created | .active => columns

inductive AuditActorType where
  | user
  | platformOperator
  | system
deriving DecidableEq

structure AuditActor where
  actorType : AuditActorType
  actorUserId : Option Uuid := none
  actorLabel : Option String := none
deriving DecidableEq

/-- A queue worker, a sweeper, a webhook consumer. -/
def AuditActor.system : AuditActor := { actorType := .system }

structure TenantTransition where
  tenantId : Uuid
  target : TenantStatus
  trigger : LifecycleTrigger
  actor : AuditActor := .system
  reason : Option String := none
  metadata : Option (List (String × String)) := none

inductive LifecycleError where
  | tenantNotFound (tenantId : Uuid)
  | slugNotFound (slug : String)
  | invalidTransition (before after : TenantStatus) (trigger : LifecycleTrigger) (reason : TransitionRefusal)
  | slugTaken (slug : String)
  | database (error : DbError)

open Interleaving Keyset Table

variable (target : TenantStatus)

structure Tenant where
  id : Uuid
  slug : String
  name : String
  status : TenantStatus
  trialEndsAt : Option Millis := none
  gracePeriodEndsAt : Option Millis := none
  suspendedAt : Option Millis := none
  cancelledAt : Option Millis := none
  purgeAt : Option Millis := none
  purgeStartedAt : Option Millis := none
  deletedAt : Option Millis := none
  trialEndingNotifiedAt : Option Millis := none
  deletionReminderNotifiedAt : Option Millis := none
deriving DecidableEq

variable (guard : Tenant → Bool) (columns : TimerColumns) (f : Tenant → Tenant) (t : Tenant)

def Tenant.write (target : TenantStatus) (columns : TimerColumns) (t : Tenant) : Tenant :=
  { t with
    status := target
    trialEndsAt := columns.trialEndsAt.getD t.trialEndsAt
    gracePeriodEndsAt := columns.gracePeriodEndsAt.getD t.gracePeriodEndsAt
    suspendedAt := columns.suspendedAt.getD t.suspendedAt
    cancelledAt := columns.cancelledAt.getD t.cancelledAt
    purgeAt := columns.purgeAt.getD t.purgeAt
    deletedAt := columns.deletedAt.getD t.deletedAt
    trialEndingNotifiedAt := columns.trialEndingNotifiedAt.getD t.trialEndingNotifiedAt
    deletionReminderNotifiedAt := columns.deletionReminderNotifiedAt.getD t.deletionReminderNotifiedAt }

@[simp] theorem Tenant.write_purgeStartedAt : (t.write target columns).purgeStartedAt = t.purgeStartedAt := rfl

def Tenant.due (now : Millis) (t : Tenant) : Bool := t.status = .suspended && t.purgeAt.any (· ≤ now)

structure LifecycleEvent where
  id : Uuid
  tenantId : Uuid
  occurredAt : Millis
  fromState : Option TenantStatus
  toState : TenantStatus
  trigger : LifecycleTrigger
  actor : AuditActor := .system
  reason : Option String := none
  metadata : Option (List (String × String)) := none
deriving DecidableEq

/-- The tables of `PURGE_ORDER`. -/
inductive PurgeTable where
  | messageAttachments
  | messages
  | mediaObjects
  | internalNotes
  | botTurns
  | handoffEvents
  | conversations
  | ticketTags
  | ticketEvents
  | slaTimers
  | tickets
  | ticketCounters
  | slaPolicies
  | workflowReferences
  | workflowRuns
  | workflows
  | knowledgeChunks
  | knowledgeDocuments
  | aiConfigs
  | cannedResponses
  | notifications
  | contactTags
  | contacts
  | customFieldDefs
  | tags
  | assignmentState
  | assignmentRules
  | teamMembers
  | inviteTeams
  | teams
  | messageTemplates
  | whatsappAccounts
  | whatsappBusinessAccounts
  | auditLogs
  | tenantOnboardingSteps
  | sessions
  | passwordResetTokens
  | invites
  | users
  | usageCounters
  | subscriptions
  | tenantEntitlements
  | idempotencyKeys
  | tenantSettings
  | tenantBranding
  | tenantDomains
deriving DecidableEq

/-- `PURGE_ORDER`: every tenant-scoped table, children before parents. -/
def purgeOrder : List PurgeTable :=
  [.messageAttachments, .messages, .mediaObjects, .internalNotes, .botTurns, .handoffEvents, .conversations,
    .ticketTags, .ticketEvents, .slaTimers, .tickets, .ticketCounters, .slaPolicies, .workflowReferences,
    .workflowRuns, .workflows, .knowledgeChunks, .knowledgeDocuments, .aiConfigs, .cannedResponses, .notifications,
    .contactTags, .contacts, .customFieldDefs, .tags, .assignmentState, .assignmentRules, .teamMembers,
    .inviteTeams, .teams, .messageTemplates, .whatsappAccounts, .whatsappBusinessAccounts, .auditLogs,
    .tenantOnboardingSteps, .sessions, .passwordResetTokens, .invites, .users, .usageCounters, .subscriptions,
    .tenantEntitlements, .idempotencyKeys, .tenantSettings, .tenantBranding, .tenantDomains]

/-- A row of one of these tables; only `media_objects` has a storage key. -/
structure TenantRow where
  id : Uuid
  table : PurgeTable
  tenantId : Uuid
  storageKey : Option String := none
deriving DecidableEq

inductive Destroyed where
  | rows (table : PurgeTable) (count : Nat)
  | object (storageKey : String)

structure Destruction where
  tenantId : Uuid
  what : Destroyed
  instant : Millis
  tenant : Option Tenant

structure LifecycleDb where
  now : Millis := 0
  tenants : List Tenant := []
  lifecycleEvents : List LifecycleEvent := []
  rows : List TenantRow := []
  /-- The tenant each row of `webhook_events` is linked to. -/
  webhookEvents : List (Option Uuid) := []
  storedObjects : List String := []
  /-- Everything destroyed so far: a record nothing of the product reads. -/
  destroyed : List Destruction := []

namespace LifecycleDb

variable (db : LifecycleDb)

def findTenant (tenantId : Uuid) : Option Tenant := db.tenants.find? (·.id = tenantId)

def findBySlug (slug : String) : Option Tenant := db.tenants.find? (·.slug = slug)

structure Indexed (db : LifecycleDb) : Prop where
  id : UniqueBy (fun t : Tenant => some t.id) db.tenants
  slug : UniqueBy (fun t : Tenant => some t.slug) db.tenants

def updateTenants (guard : Tenant → Bool) (f : Tenant → Tenant) : LifecycleDb :=
  { db with tenants := updateWhere guard f db.tenants }

end LifecycleDb

inductive LifecycleWrite where
  | lockTenant (tenantId : Uuid)
  | updateTenant (tenantId : Uuid) (target : TenantStatus) (columns : TimerColumns)
  | createTenant (tenant : Tenant)
  | createEvent (event : LifecycleEvent)

inductive LifecycleRow where
  | lock (statuses : List TenantStatus)
  | tenant (t : Tenant)
  | event (id : Uuid)
deriving DecidableEq

def LifecycleWrite.apply (w : LifecycleWrite) (db : LifecycleDb) :
    Except LifecycleError (List LifecycleRow × LifecycleDb) :=
  match w with
  | .lockTenant tenantId => .ok ([.lock ((db.tenants.filter (·.id = tenantId)).map (·.status))], db)
  | .updateTenant tenantId target columns =>
    .ok ((db.tenants.filter (·.id = tenantId)).map .tenant,
      db.updateTenants (·.id = tenantId) (·.write target columns))
  | .createTenant tenant =>
    if db.tenants.any fun t => t.id = tenant.id ∨ t.slug = tenant.slug then .error (.slugTaken tenant.slug)
    else .ok ([.tenant tenant], { db with tenants := db.tenants ++ [tenant] })
  | .createEvent event =>
    if db.lifecycleEvents.any (·.id = event.id) then .error (.database .uniqueViolation)
    else .ok ([.event event.id], { db with lifecycleEvents := db.lifecycleEvents ++ [event] })

def lifecycleWrites : Writes LifecycleDb LifecycleWrite LifecycleRow LifecycleError where
  apply := LifecycleWrite.apply
  conflict := .database .serializationFailure

/-- The statements of the lifecycle. A commit says which tenant it moves, and where to. -/
inductive LifecycleStmt where
  | read
  | write
  | commit (tenantId : Uuid) (target : TenantStatus)
  | provision
  | expedite (tenantId : Uuid)
  | stamp
  | dueCheck (tenantId : Uuid)
  | begin (tenantId : Uuid)
  | destroyObject (tenantId : Uuid) (storageKey : String)
  | destroyRows (tenantId : Uuid) (table : PurgeTable)
  | unlink
  | store
  | tick

abbrev LifecycleTx := Tx LifecycleStmt LifecycleDb LifecycleWrite LifecycleRow LifecycleError

abbrev LifecycleProg := Prog LifecycleStmt LifecycleDb

end WhatsappCrm.Lifecycle
