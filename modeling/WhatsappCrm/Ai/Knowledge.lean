/-
Purpose: The knowledge base: what the console writes (`knowledge-document.service.ts`), the indexer
  (`knowledge-indexer.service.ts`) and its jobs.
-/
import WhatsappCrm.Ai.Chunking
import WhatsappCrm.Common.KeysetCursor

namespace WhatsappCrm.Ai

open Interleaving Table

inductive KnowledgeDocumentStatus where
  | pending
  | indexed
  | failed
deriving DecidableEq

abbrev DocumentKey := Uuid × Uuid

structure KnowledgeDocument where
  id : Uuid
  tenantId : Uuid
  content : String
  status : KnowledgeDocumentStatus := .pending
  chunkCount : Nat := 0
  indexedAt : Option Millis := none

structure KnowledgeChunk where
  id : Nat
  tenantId : Uuid
  documentId : Uuid
  ordinal : Nat
  content : String

def KnowledgeDocument.key (d : KnowledgeDocument) : DocumentKey := (d.tenantId, d.id)

def KnowledgeChunk.key (c : KnowledgeChunk) : DocumentKey := (c.tenantId, c.documentId)

inductive IndexJobState where
  | waiting
  | active
  | failed
deriving DecidableEq

/-- What the present run of a job has seen of its document: not yet anything, its last version, or an earlier one. -/
inductive Progress where
  | unread
  | current
  | behind
deriving DecidableEq

/-- A job of the queue; its id is the document's (`indexKnowledgeDocumentJobId`). -/
structure IndexJob where
  key : DocumentKey
  state : IndexJobState := .waiting
  attemptsMade : Nat := 0
  /-- The lock of the worker that runs it. -/
  token : Nat := 0
  /-- A record nothing reads. -/
  progress : Progress := .unread

structure KnowledgeDb where
  now : Millis := 0
  /-- The tenants `assert_tenant_active` lets through. -/
  serviceable : List Uuid := []
  /-- The tenants whose plan includes `ai_chatbot`. -/
  included : List Uuid := []
  /-- Whether Redis takes a job. -/
  redisUp : Bool := true
  documents : List KnowledgeDocument := []
  chunks : List KnowledgeChunk := []
  nextChunk : Nat := 0
  jobs : List IndexJob := []
  nextToken : Nat := 0
  /-- The documents somebody has made pending and not come to queue yet: a record nothing reads. -/
  owed : List DocumentKey := []

inductive KnowledgeError where
  | featureNotInPlan
  | capReached
  | notFound (documentId : Uuid)
  | tenantNotActive (tenantId : Uuid)
  | database

/-- How an attempt ended: with the chunks, without a document, without a tenant to act for, or thrown; for the last two,
    whether the failure was recorded. -/
inductive AttemptResult where
  | indexed
  | skipped
  | dropped (recorded : Bool)
  | threw (recorded : Bool)
deriving DecidableEq

/-- The statements. The commit of an index says what was read and which chunks were deleted. -/
inductive KnowledgeStmt where
  | plan
  | insert (key : DocumentKey)
  | edit (key : DocumentKey)
  | enqueue (key : DocumentKey)
  | take (key : DocumentKey)
  | read (key : DocumentKey)
  | deleteChunks (key : DocumentKey)
  | commit (key : DocumentKey) (content : String) (seen : List Nat)
  | recordFailure (key : DocumentKey)
  | settle (key : DocumentKey) (token : Nat) (result : AttemptResult)
  | abandon (key : DocumentKey)
  | surroundings
deriving DecidableEq

abbrev KnowledgeProg := Prog KnowledgeStmt KnowledgeDb

def documentsPerTenant : Nat := 1000

/-- The run of a job that has read its document has now read an earlier version. -/
def IndexJob.fallBehind (j : IndexJob) : IndexJob :=
  { j with progress := if j.progress = .unread then .unread else .behind }

def IndexJob.heldBy (key : DocumentKey) (token : Nat) (j : IndexJob) : Bool :=
  j.key = key && j.state = .active && j.token = token

def aiIndexMaxAttempts : Nat := 3

def IndexJob.fail (j : IndexJob) : IndexJob :=
  { j with
    attemptsMade := j.attemptsMade + 1
    state := if j.attemptsMade + 1 < aiIndexMaxAttempts then .waiting else .failed }

namespace KnowledgeDb

variable (db : KnowledgeDb)

def insert (key : DocumentKey) (content : String) : Except KnowledgeError Unit × KnowledgeDb :=
  if !db.serviceable.contains key.1 then (.error (.tenantNotActive key.1), db)
  else if documentsPerTenant ≤ (db.documents.filter (·.tenantId = key.1)).length then (.error .capReached, db)
  else if db.documents.any (·.id = key.2) then (.error .database, db)
  else
    (.ok (),
      { db with
        documents := db.documents ++ [{ id := key.2, tenantId := key.1, content }]
        jobs := updateWhere (·.key = key) IndexJob.fallBehind db.jobs
        owed := key :: db.owed })

/-- The write of an edit of the content, and of a reindex: the document is pending again. -/
def edit (key : DocumentKey) (content : Option String) : Except KnowledgeError Unit × KnowledgeDb :=
  if !db.serviceable.contains key.1 then (.error (.tenantNotActive key.1), db)
  else if !db.documents.any (·.key = key) then (.error (.notFound key.2), db)
  else
    (.ok (),
      { db with
        documents := updateWhere (·.key = key)
          (fun d => { d with content := content.getD d.content, status := .pending }) db.documents
        jobs := updateWhere (·.key = key) IndexJob.fallBehind db.jobs
        owed := key :: db.owed })

/-- `queue.add`: a job of that id is held, in whatever state, or one is added. -/
def enqueue (key : DocumentKey) : KnowledgeDb :=
  { db with
    jobs := if db.redisUp ∧ !db.jobs.any (·.key = key) then db.jobs ++ [{ key }] else db.jobs
    owed := db.owed.erase key }

def deleteDocument (key : DocumentKey) : Except KnowledgeError Unit × KnowledgeDb :=
  if !db.serviceable.contains key.1 then (.error (.tenantNotActive key.1), db)
  else if !db.documents.any (·.key = key) then (.error (.notFound key.2), db)
  else
    (.ok (),
      { db with
        documents := db.documents.filter (·.key ≠ key)
        chunks := db.chunks.filter (·.key ≠ key) })

/-- A worker takes a job that waits, or one whose worker has lost its lock. -/
def take (key : DocumentKey) : Option Nat × KnowledgeDb :=
  if db.jobs.any fun j => j.key = key && j.state ≠ .failed then
    (some db.nextToken,
      { db with
        nextToken := db.nextToken + 1
        jobs := updateWhere (fun j => j.key = key && j.state ≠ .failed)
          (fun j => { j with state := .active, token := db.nextToken, progress := .unread }) db.jobs })
  else (none, db)

def readContent (key : DocumentKey) (token : Nat) : Except KnowledgeError (Option String) × KnowledgeDb :=
  if db.serviceable.contains key.1 then
    (.ok ((db.documents.find? (·.key = key)).map (·.content)),
      { db with jobs := updateWhere (IndexJob.heldBy key token) ({ · with progress := .current }) db.jobs })
  else (.error (.tenantNotActive key.1), db)

def chunkIds (key : DocumentKey) : List Nat := (db.chunks.filter (·.key = key)).map (·.id)

def chunkRows (key : DocumentKey) (next : Nat) (chunks : List String) : List KnowledgeChunk :=
  chunks.mapIdx fun ordinal content =>
    { id := next + ordinal, tenantId := key.1, documentId := key.2, ordinal, content }

/-- The insert is refused: a row that was not deleted has one of the ordinals, or the document is gone. -/
def collides (key : DocumentKey) (content : String) (seen : List Nat) : Bool :=
  chunkDocument content ≠ [] &&
    (!db.documents.any (·.key = key) ||
      db.chunks.any fun c => c.key = key && !seen.contains c.id && c.ordinal < (chunkDocument content).length)

def commitIndex (key : DocumentKey) (content : String) (seen : List Nat) : Except KnowledgeError Unit × KnowledgeDb :=
  if !db.serviceable.contains key.1 then (.error (.tenantNotActive key.1), db)
  else if db.collides key content seen then (.error .database, db)
  else
    (.ok (),
      { db with
        chunks := db.chunks.filter (fun c => !(c.key = key && seen.contains c.id)) ++
          chunkRows key db.nextChunk (chunkDocument content)
        nextChunk := db.nextChunk + (chunkDocument content).length
        documents := updateWhere (·.key = key)
          (fun d => { d with
            status := .indexed
            chunkCount := (chunkDocument content).length
            indexedAt := some db.now }) db.documents })

def recordFailure (key : DocumentKey) : Bool × KnowledgeDb :=
  if db.serviceable.contains key.1 then
    (true,
      { db with
        documents := updateWhere (·.key = key) ({ · with status := .failed, chunkCount := 0 }) db.documents })
  else (false, db)

/-- The end of a run, which BullMQ takes only from the worker that holds the lock: `removeOnComplete` and
    `removeOnFail`. -/
def settle (key : DocumentKey) (token : Nat) (result : AttemptResult) : KnowledgeDb :=
  match result with
  | .threw _ => { db with jobs := updateWhere (IndexJob.heldBy key token) IndexJob.fail db.jobs }
  | _ => { db with jobs := db.jobs.filter fun j => !j.heldBy key token }

end KnowledgeDb

/-- `queueIndexing`; it never throws. -/
def queueIndexing (key : DocumentKey) : KnowledgeProg Unit := .stmt (.enqueue key) fun db => ((), db.enqueue key)

/-- `assertFeatureIncluded`, and what follows it. -/
def whenIncluded (tenantId : Uuid) (body : KnowledgeProg (Except KnowledgeError Unit)) :
    KnowledgeProg (Except KnowledgeError Unit) :=
  (Prog.read .plan (·.included.contains tenantId)).bind fun included =>
    if included then body else .pure (.error .featureNotInPlan)

def thenQueue (key : DocumentKey) (tag : KnowledgeStmt) (write : KnowledgeDb → Except KnowledgeError Unit × KnowledgeDb) :
    KnowledgeProg (Except KnowledgeError Unit) :=
  (Prog.stmt tag write).bind fun written =>
    match written with
    | .error error => .pure (.error error)
    | .ok _ => (queueIndexing key).bind fun _ => .pure (.ok ())

def create (key : DocumentKey) (content : String) : KnowledgeProg (Except KnowledgeError Unit) :=
  whenIncluded key.1 (thenQueue key (.insert key) (·.insert key content))

/-- `update` with a `content`; an update without one leaves the chunks and the status alone. -/
def update (key : DocumentKey) (content : String) : KnowledgeProg (Except KnowledgeError Unit) :=
  whenIncluded key.1 (thenQueue key (.edit key) (·.edit key (some content)))

def reindex (key : DocumentKey) : KnowledgeProg (Except KnowledgeError Unit) :=
  whenIncluded key.1 (thenQueue key (.edit key) (·.edit key none))

def delete (key : DocumentKey) : KnowledgeProg (Except KnowledgeError Unit) :=
  whenIncluded key.1 (Prog.stmt .surroundings (·.deleteDocument key))

/-- What the database makes of an attempt: whether its read, its transaction and the record of a failure come through. -/
structure AttemptFate where
  reads : Bool := true
  commits : Bool := true
  records : Bool := true

/-- The end of an attempt that threw; `AiQueueRunner` drops what a tenant that is not active caused. -/
def throwing (error : KnowledgeError) (recorded : Bool) : AttemptResult :=
  match error with
  | .tenantNotActive _ => .dropped recorded
  | _ => .threw recorded

/-- `recordFailure`, after which the error is thrown on. -/
def recordFailure (key : DocumentKey) (error : KnowledgeError) (records : Bool) : KnowledgeProg AttemptResult :=
  if records then
    (Prog.stmt (.recordFailure key) (·.recordFailure key)).bind fun recorded => .pure (throwing error recorded)
  else .pure (throwing error false)

def index (key : DocumentKey) (token : Nat) (fate : AttemptFate) : KnowledgeProg AttemptResult :=
  if fate.reads then
    (Prog.stmt (.read key) (·.readContent key token)).bind fun found =>
      match found with
      | .error error => .pure (throwing error false)
      | .ok none => .pure .skipped
      | .ok (some content) =>
        (Prog.read (.deleteChunks key) (·.chunkIds key)).bind fun seen =>
          if fate.commits then
            (Prog.stmt (.commit key content seen) (·.commitIndex key content seen)).bind fun committed =>
              match committed with
              | .ok _ => .pure .indexed
              | .error error => recordFailure key error fate.records
          else recordFailure key .database fate.records
  else .pure (.threw false)

def attempt (key : DocumentKey) (fate : AttemptFate) : KnowledgeProg (Option AttemptResult) :=
  (Prog.stmt (.take key) (·.take key)).bind fun taken =>
    match taken with
    | none => .pure none
    | some token =>
      (index key token fate).bind fun result =>
        (Prog.stmt (.settle key token result) fun db => ((), db.settle key token result)).bind fun _ =>
          .pure (some result)

inductive KnowledgeCall where
  | create (key : DocumentKey) (content : String)
  | update (key : DocumentKey) (content : String)
  | reindex (key : DocumentKey)
  | delete (key : DocumentKey)
  | attempt (key : DocumentKey) (fate : AttemptFate)
  /-- BullMQ gives a job up that has stalled too often. -/
  | abandon (key : DocumentKey)
  /-- A failed job is no longer retained. -/
  | evict (key : DocumentKey)
  /-- An operator retries a failed job. -/
  | retry (key : DocumentKey)
  | advance (milliseconds : Nat)
  | operate (serviceable included : List Uuid) (redisUp : Bool)

inductive KnowledgeReply where
  | answered (result : Except KnowledgeError Unit)
  | attempted (result : Option AttemptResult)
  | done

def knowledgeProgram : KnowledgeCall → KnowledgeProg KnowledgeReply
  | .create key content => (create key content).bind (.pure ∘ .answered)
  | .update key content => (update key content).bind (.pure ∘ .answered)
  | .reindex key => (reindex key).bind (.pure ∘ .answered)
  | .delete key => (delete key).bind (.pure ∘ .answered)
  | .attempt key fate => (attempt key fate).bind (.pure ∘ .attempted)
  | .abandon key =>
    .stmt (.abandon key) fun db =>
      (.done,
        { db with
          jobs := updateWhere (fun j => j.key = key && j.state = .active) ({ · with state := .failed }) db.jobs })
  | .evict key =>
    .stmt .surroundings fun db =>
      (.done, { db with jobs := db.jobs.filter fun j => !(j.key = key && j.state = .failed) })
  | .retry key =>
    .stmt .surroundings fun db =>
      (.done,
        { db with
          jobs := updateWhere (fun j => j.key = key && j.state = .failed) ({ · with state := .waiting }) db.jobs })
  | .advance milliseconds => .stmt .surroundings fun db => (.done, { db with now := db.now + milliseconds })
  | .operate serviceable included redisUp =>
    .stmt .surroundings fun db => (.done, { db with serviceable, included, redisUp })

abbrev KnowledgeSys := Sys KnowledgeStmt KnowledgeDb KnowledgeCall KnowledgeReply

end WhatsappCrm.Ai
