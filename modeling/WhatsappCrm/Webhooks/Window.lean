/-
Purpose: The customer service window of a thread after any sequence of messages and receipts.
-/
import WhatsappCrm.Webhooks.Feed

namespace WhatsappCrm.Webhooks

open Interleaving Table

variable (events : List ProviderEvent)

/-- The event is written at all: Meta also reports statuses the product does not model. -/
def ProviderEvent.writes : ProviderEvent → Bool
  | .message _ _ => true
  | .receipt u => (toMessageStatus u.status).isSome

def ProviderEvent.inboundTime : ProviderEvent → Option Millis
  | .message m _ => some m.timestamp
  | .receipt _ => none

def inboundTimes : List Millis := events.filterMap ProviderEvent.inboundTime

def lastInbound : Option Millis := (inboundTimes events).max?

def opener : Option ProviderEvent := events.find? ProviderEvent.writes

/-- The messages and receipts of one thread: the provider's id names one message, with its time and its direction. -/
structure ConversationEvents (phoneE164 : String) (events : List ProviderEvent) : Prop where
  phone : ∀ e ∈ events, e.phoneE164 = some phoneE164
  identified : ∀ e ∈ events, ∀ e' ∈ events, e.id = e'.id → e.inboundTime = e'.inboundTime

structure Unopened (db : WebhookDb) (account : RoutedWhatsAppAccount) (phoneE164 : String)
    (events : List ProviderEvent) : Prop where
  thread : db.findThread account.tenantId phoneE164 account.whatsappAccountId = none
  message : ∀ e ∈ events, db.findMessage account.tenantId e.id = none

def ProviderEvent.birth : ProviderEvent → Activity
  | .message m _ => Feed.messageBirth m.timestamp
  | .receipt u => Feed.receiptBirth u.timestamp

def threadAfter : Option Activity :=
  (opener events).map fun e => (lastInbound events).elim e.birth e.birth.advance

theorem max?_concat (ts : List Millis) (t : Millis) : (ts ++ [t]).max? = some (ts.max?.elim t (max · t)) := by
  cases ts with
  | nil => rfl
  | cons =>
    simp only [List.cons_append, List.max?_cons', List.foldl_append, List.foldl_cons, List.foldl_nil,
      Option.elim_some]

variable {t : Millis} {a : Activity} {done : List ProviderEvent}

theorem max?_concat_of_mem (h : t ∈ ts) : (ts ++ [t]).max? = ts.max? := by
  rw [max?_concat]
  cases hmax : ts.max? with
  | none =>
    rw [List.max?_eq_none_iff.mp hmax] at h
    cases h
  | some =>
    obtain ⟨_, hlast⟩ := List.max?_eq_some_iff.mp hmax
    simp [max_eq_left (hlast t h)]

theorem Activity.advance_of_lt (h : a.lastMessageAt < t) : a.advance t = ⟨t, some (serviceWindowEnd t)⟩ := if_pos h

theorem Activity.advance_of_le (h : t ≤ a.lastMessageAt) : a.advance t = a :=
  if_neg (Int.not_lt.mpr h)

theorem Activity.advance_advance (a : Activity) (s t : Millis) : (a.advance s).advance t = a.advance (max s t) := by
  simp only [Activity.advance]
  split <;> split <;> grind

theorem Activity.elim_advance (a : Activity) (ts : List Millis) (t : Millis) :
    (ts.max?.elim a a.advance).advance t = a.advance (ts.max?.elim t (max · t)) := by
  cases ts.max? with
  | none => rfl
  | some s => exact a.advance_advance s t

theorem opener_snoc (done : List ProviderEvent) (e : ProviderEvent) :
    opener (done ++ [e]) = (opener done).or (if e.writes then some e else none) := by
  simp only [opener, List.find?_append]
  cases hw : e.writes <;> simp [hw]

theorem inboundTimes_snoc (done : List ProviderEvent) (e : ProviderEvent) :
    inboundTimes (done ++ [e]) = inboundTimes done ++ e.inboundTime.toList := by
  cases hin : e.inboundTime <;> simp [inboundTimes, List.filterMap_append, hin]

section Step

variable {f : Feed} {e : ProviderEvent}

theorem applyEvent_silent (hw : e.writes = false) : f.applyEvent whatsappAccountId e = f := by
  cases e with
  | message => cases hw
  | receipt u =>
    have hstatus : toMessageStatus u.status = none := Option.isSome_eq_false_iff.mp hw |> Option.isNone_iff_eq_none.mp
    simp only [Feed.applyEvent, hstatus]

theorem applyEvent_message_other {id : String} (hid : id ≠ e.id) :
    (f.applyEvent whatsappAccountId e).message id = f.message id := by
  cases e with
  | message m =>
    have hid' : id ≠ m.id := hid
    simp only [Feed.applyEvent, Feed.applyMessage]
    split
    · rfl
    · exact Function.update_of_ne hid' _ _
  | receipt u =>
    have hid' : id ≠ u.id := hid
    simp only [Feed.applyEvent]
    split
    · rfl
    · simp only [Feed.applyReceipt]
      split <;> exact Function.update_of_ne hid' _ _

theorem applyEvent_message {id : String} (h : (f.applyEvent whatsappAccountId e).message id ≠ none) :
    f.message id ≠ none ∨ (e.writes = true ∧ e.id = id) := by
  by_cases hid : id = e.id
  · cases hw : e.writes with
    | true => exact .inr ⟨rfl, hid.symm⟩
    | false =>
      rw [applyEvent_silent hw] at h
      exact .inl h
  · rw [applyEvent_message_other hid] at h
    exact .inl h

theorem applyEvent_thread_new (hw : e.writes = true) (hnew : f.message e.id = none) :
    (f.applyEvent whatsappAccountId e).thread whatsappAccountId =
      let a := (f.thread whatsappAccountId).getD e.birth
      some (e.inboundTime.elim a a.advance) := by
  cases e with
  | message m =>
    have hnew' : f.message m.id = none := hnew
    simp [Feed.applyEvent, Feed.applyMessage, hnew', Feed.advance, Feed.store, Feed.openThread, Feed.see,
      ProviderEvent.inboundTime, ProviderEvent.birth]
  | receipt u =>
    obtain ⟨status, hstatus⟩ := Option.isSome_iff_exists.mp hw
    have hnew' : f.message u.id = none := hnew
    simp [Feed.applyEvent, hstatus, Feed.applyReceipt, hnew', Feed.store, Feed.openThread, Feed.see,
      ProviderEvent.inboundTime, ProviderEvent.birth]

theorem applyEvent_thread_stored (hstored : f.message e.id ≠ none) (hthread : f.thread whatsappAccountId = some a) :
    (f.applyEvent whatsappAccountId e).thread whatsappAccountId = some a := by
  obtain ⟨steps, hsteps⟩ := Option.ne_none_iff_exists'.mp hstored
  cases e with
  | message m =>
    have hsteps' : f.message m.id = some steps := hsteps
    simp [Feed.applyEvent, Feed.applyMessage, hsteps', Feed.openThread, Feed.see, hthread]
  | receipt u =>
    have hsteps' : f.message u.id = some steps := hsteps
    simp only [Feed.applyEvent]
    split
    · exact hthread
    · simp [Feed.applyReceipt, hsteps', Feed.store, hthread]

end Step

structure LeftBy (base : Feed) (whatsappAccountId : Uuid) (done : List ProviderEvent) (f : Feed) : Prop where
  message : ∀ id, f.message id ≠ none → base.message id ≠ none ∨ ∃ e ∈ done, e.writes = true ∧ e.id = id
  thread : f.thread whatsappAccountId = threadAfter done

theorem opener_isSome {e : ProviderEvent} (he : e ∈ done) (hw : e.writes = true) : ∃ first, opener done = some first :=
  Option.isSome_iff_exists.mp (List.find?_isSome.mpr ⟨e, he, hw⟩)

theorem inboundTimes_of_no_opener (h : opener done = none) : inboundTimes done = [] := by
  apply List.filterMap_eq_nil_iff.mpr
  intro e he
  have hw := List.find?_eq_none.mp h e he
  cases e with
  | message => exact absurd rfl hw
  | receipt => rfl

theorem LeftBy.snoc {f : Feed} {e : ProviderEvent}
    (h : LeftBy base whatsappAccountId done f) (hbase : base.message e.id = none)
    (hidentified : ∀ e' ∈ done, e.id = e'.id → e.inboundTime = e'.inboundTime) :
    LeftBy base whatsappAccountId (done ++ [e]) (f.applyEvent whatsappAccountId e) where
  message id hstored := by
    rcases applyEvent_message hstored with hstored | ⟨hw, hid⟩
    · rcases h.message id hstored with hbase' | ⟨e', he', hw', hid'⟩
      · exact .inl hbase'
      · exact .inr ⟨e', List.mem_append_left _ he', hw', hid'⟩
    · exact .inr ⟨e, List.mem_append_right _ List.mem_cons_self, hw, hid⟩
  thread := by
    cases hw : e.writes with
    | false =>
      -- such an event is a receipt, which is no message either
      have htime : e.inboundTime = none := by
        cases e with
        | message => cases hw
        | receipt => rfl
      rw [applyEvent_silent hw, h.thread]
      simp [threadAfter, opener_snoc, hw, lastInbound, inboundTimes_snoc, htime]
    | true =>
      by_cases hstored : f.message e.id = none
      · rw [applyEvent_thread_new hw hstored, h.thread]
        cases hfirst : opener done with
        | none =>
          have htimes := inboundTimes_of_no_opener hfirst
          cases htime : e.inboundTime <;>
            simp [threadAfter, opener_snoc, hfirst, hw, lastInbound, inboundTimes_snoc, htimes, htime]
        | some =>
          cases htime : e.inboundTime with
          | none => simp [threadAfter, opener_snoc, hfirst, lastInbound, inboundTimes_snoc, htime]
          | some =>
            simp only [threadAfter, opener_snoc, hfirst, lastInbound, inboundTimes_snoc, htime,
              Option.map_some, Option.getD_some, Option.elim_some, Option.some_or, Option.toList_some,
              max?_concat, Activity.elim_advance]
      · -- its message came with an earlier event, and with it the thread and its time
        rcases h.message e.id hstored with hbase' | ⟨e', he', hw', hid'⟩
        · exact absurd hbase hbase'
        · obtain ⟨first, hfirst⟩ := opener_isSome he' hw'
          have htime := hidentified e' he' hid'.symm
          have hlast : lastInbound (done ++ [e]) = lastInbound done := by
            simp only [lastInbound, inboundTimes_snoc]
            cases ht : e.inboundTime with
            | none => simp
            | some => exact max?_concat_of_mem (List.mem_filterMap.mpr ⟨e', he', htime.symm.trans ht⟩)
          have hthread : f.thread whatsappAccountId =
              some ((lastInbound done).elim first.birth first.birth.advance) := by
            rw [h.thread, threadAfter, hfirst]
            rfl
          rw [applyEvent_thread_stored hstored hthread, threadAfter, opener_snoc, hfirst, hlast]
          rfl

theorem thread_after {base : Feed} {events : List ProviderEvent}
    (hidentified : ∀ e ∈ events, ∀ e' ∈ events, e.id = e'.id → e.inboundTime = e'.inboundTime)
    (hthread : base.thread whatsappAccountId = none) (hmessage : ∀ e ∈ events, base.message e.id = none) :
    LeftBy base whatsappAccountId events (events.foldl (fun f e => f.applyEvent whatsappAccountId e) base) := by
  induction events using List.reverseRecOn with
  | nil => exact ⟨fun id hid => .inl hid, hthread⟩
  | append_singleton done e ih =>
    rw [List.foldl_append]
    have hdone : ∀ e' ∈ done, e' ∈ done ++ [e] := fun e' he' => List.mem_append_left _ he'
    have hlast : e ∈ done ++ [e] := List.mem_append_right _ List.mem_cons_self
    apply LeftBy.snoc
    · exact ih (fun e₁ h₁ e₂ h₂ => hidentified e₁ (hdone e₁ h₁) e₂ (hdone e₂ h₂)) fun e' he' => hmessage e' (hdone e' he')
    · exact hmessage e hlast
    · exact fun e' he' => hidentified e hlast e' (hdone e' he')

def WebhookDb.serviceWindow (db : WebhookDb) (account : RoutedWhatsAppAccount) (phoneE164 : String) : Option Millis :=
  (db.findThread account.tenantId phoneE164 account.whatsappAccountId).bind (·.serviceWindowExpiresAt)

def OpenedByLaterReceipt : Prop :=
  ∃ u, opener events = some (.receipt u) ∧ ∃ last, lastInbound events = some last ∧ last ≤ u.timestamp

theorem window_threadAfter :
    (threadAfter events).bind (·.serviceWindowExpiresAt) = (lastInbound events).map serviceWindowEnd ↔
      ¬ OpenedByLaterReceipt events := by
  cases hfirst : opener events with
  | none =>
    have hlast : lastInbound events = none := by
      rw [lastInbound, inboundTimes_of_no_opener hfirst]
      rfl
    simp [threadAfter, OpenedByLaterReceipt, hfirst, hlast]
  | some first =>
    cases hlast : lastInbound events with
    | none =>
      cases first with
      | message m =>
        have hmem : m.timestamp ∈ inboundTimes events :=
          List.mem_filterMap.mpr ⟨_, List.mem_of_find?_eq_some hfirst, rfl⟩
        rw [List.max?_eq_none_iff.mp hlast] at hmem
        cases hmem
      | receipt =>
        simp [threadAfter, OpenedByLaterReceipt, hfirst, hlast, ProviderEvent.birth, Feed.receiptBirth]
    | some last =>
      cases first with
      | message m =>
        have hmem : m.timestamp ∈ inboundTimes events :=
          List.mem_filterMap.mpr ⟨_, List.mem_of_find?_eq_some hfirst, rfl⟩
        have hle : m.timestamp ≤ last := (List.max?_eq_some_iff.mp hlast).2 _ hmem
        have hwindow : ((Feed.messageBirth m.timestamp).advance last).serviceWindowExpiresAt =
            some (serviceWindowEnd last) := by
          rcases lt_or_eq_of_le hle with hlt | heq
          · rw [Activity.advance_of_lt hlt]
          · rw [Activity.advance_of_le heq.ge, ← heq]
            rfl
        simp [threadAfter, OpenedByLaterReceipt, hfirst, hlast, ProviderEvent.birth, hwindow]
      | receipt u =>
        simp only [threadAfter, OpenedByLaterReceipt, hfirst, hlast, ProviderEvent.birth, Option.map_some,
          Option.elim_some, Option.bind_some]
        by_cases hle : last ≤ u.timestamp
        · rw [Activity.advance_of_le hle]
          simp [Feed.receiptBirth, hle]
        · rw [Activity.advance_of_lt (Int.not_le.mp hle)]
          simp [hle]

/-- **The service window after a sequence of events.** It is the latest message's exactly when that was not a receipt
    at least as late that opened the thread. -/
theorem service_window_follows_messages_iff {db db' : WebhookDb} {account : RoutedWhatsAppAccount} {phoneE164 : String}
    {events : List ProviderEvent} (hdb : Kept db) (hevents : ConversationEvents phoneE164 events)
    (hstart : Unopened db account phoneE164 events) (h : deliverAll account events db = some db') :
    db'.serviceWindow account phoneE164 = (lastInbound events).map serviceWindowEnd ↔
      ¬ OpenedByLaterReceipt events := by
  obtain ⟨_, hfeed⟩ := deliverAll_feed hdb hevents.phone h
  have hthread : (db.feed account.tenantId phoneE164).thread account.whatsappAccountId = none :=
    congrArg (Option.map InboundConversation.activity) hstart.thread
  have hmessage : ∀ e ∈ events, (db.feed account.tenantId phoneE164).message e.id = none :=
    fun e he => congrArg (Option.map InboundMessage.steps) (hstart.message e he)
  have hafter := (thread_after hevents.identified hthread hmessage).thread
  rw [← hfeed] at hafter
  have hwindow : db'.serviceWindow account phoneE164 = (threadAfter events).bind (·.serviceWindowExpiresAt) := by
    rw [← hafter, WebhookDb.serviceWindow, WebhookDb.feed, Option.bind_map]
    rfl
  rw [hwindow]
  exact window_threadAfter events

def noThread : WebhookDb := { serviceable := [1], uuids := [11, 12, 13, 14] }

theorem noThread_kept : Kept noThread where
  indexed := by constructor <;> decide
  linked := by decide
  attached := by decide

def servedNumber : RoutedWhatsAppAccount := ⟨1, 2⟩

def customerMessage (id : String) (timestamp : Millis) (displayName : Option String) : ProviderEvent :=
  .message { id, source := "15551234567", timestamp } displayName

def customerReceipt (id status : String) (timestamp : Millis) : ProviderEvent :=
  .receipt { id, status, timestamp, recipientId := "15551234567" }

def shuffledEvents : List ProviderEvent :=
  [customerMessage "m1" 50 none, customerReceipt "r1" "sent" 100, customerMessage "m2" 70 none,
    customerMessage "m1" 50 none]

theorem service_window_follows_messages_iff_shuffled : ∃ db',
    deliverAll servedNumber shuffledEvents noThread = some db' ∧
      (db'.serviceWindow servedNumber "+15551234567" = (lastInbound shuffledEvents).map serviceWindowEnd ↔
        ¬ OpenedByLaterReceipt shuffledEvents) := by
  have hsome : (deliverAll servedNumber shuffledEvents noThread).isSome = true := by decide +kernel
  obtain ⟨db', hdb'⟩ := Option.isSome_iff_exists.mp hsome
  have hevents : ConversationEvents "+15551234567" shuffledEvents := ⟨by decide +kernel, by decide +kernel⟩
  have hstart : Unopened noThread servedNumber "+15551234567" shuffledEvents := ⟨by decide +kernel, by decide +kernel⟩
  exact ⟨db', hdb', service_window_follows_messages_iff noThread_kept hevents hstart hdb'⟩

/-- A receipt opens the thread, and an older message follows it: the window stays closed. -/
theorem receipt_keeps_window_closed : ∃ events db', Kept noThread ∧ ConversationEvents "+15551234567" events ∧
    Unopened noThread servedNumber "+15551234567" events ∧ deliverAll servedNumber events noThread = some db' ∧
      lastInbound events = some 50 ∧ db'.serviceWindow servedNumber "+15551234567" = none := by
  have hrun : ((deliverAll servedNumber [customerReceipt "r1" "delivered" 100, customerMessage "m1" 50 none]
      noThread).map fun db' => db'.serviceWindow servedNumber "+15551234567") = some none := by
    decide +kernel
  obtain ⟨db', hdb', hwindow⟩ := Option.map_eq_some_iff.mp hrun
  refine ⟨_, db', noThread_kept, ⟨by decide +kernel, by decide +kernel⟩, ⟨by decide +kernel, by decide +kernel⟩,
    hdb', rfl, hwindow⟩

end WhatsappCrm.Webhooks
