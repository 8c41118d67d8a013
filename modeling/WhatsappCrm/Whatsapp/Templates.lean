/-
Purpose: The templates a tenant holds: the pages of the picker (`message-template-query.service.ts`, `message-
  template-cursor.ts`) and the synchronisation with the provider's list (`message-template-sync.service.ts`).
-/
import WhatsappCrm.Common.KeysetCursor
import WhatsappCrm.Lib.Keyset
import WhatsappCrm.Whatsapp.TemplateComponents
import Mathlib.Data.Prod.Lex
import Mathlib.Data.String.Basic

namespace WhatsappCrm.Templates

open Keyset

structure MessageTemplate where
  id : Uuid
  whatsappBusinessAccountId : Uuid
  name : String
  language : String
  category : Option String
  status : MessageTemplateStatus
  components : Option Json
  providerTemplateId : Option String

structure WhatsappAccount where
  id : Uuid
  whatsappBusinessAccountId : Uuid

structure TemplateDb where
  templates : List MessageTemplate
  accounts : List WhatsappAccount

structure ListMessageTemplatesQuery where
  limit : Nat
  cursor : Option String := none
  whatsappAccountId : Option Uuid := none
  whatsappBusinessAccountId : Option Uuid := none
  q : Option String := none

structure MessageTemplatePage where
  items : List MessageTemplate
  nextCursor : Option String

inductive TemplateListError where
  | invalidCursor
  | unknownWhatsAppAccount

structure MessageTemplateCursor where
  name : String
  language : String
  id : Uuid

def readMessageTemplateCursor : Option String → Except TemplateListError (Option MessageTemplateCursor)
  | none => .ok none
  | some text =>
    match decodeKeysetCursor text with
    | some { sortValues := [name, language], id } => .ok (some { name, language, id })
    | _ => .error .invalidCursor

def encodeMessageTemplateCursor (row : MessageTemplate) : String :=
  encodeKeysetCursor { sortValues := [row.name, row.language], id := row.id }

def alreadyReturned (cursor : MessageTemplateCursor) (row : MessageTemplate) : Bool :=
  row.name = cursor.name ∧
    (row.language < cursor.language ∨ row.language = cursor.language ∧ row.id.toNat ≤ cursor.id.toNat)

def resolveBusinessAccountId (db : TemplateDb) (query : ListMessageTemplatesQuery) :
    Except TemplateListError (Option Uuid) :=
  match query.whatsappAccountId with
  | none => .ok query.whatsappBusinessAccountId
  | some accountId =>
    match db.accounts.find? fun account => account.id = accountId with
    | none => .error .unknownWhatsAppAccount
    | some account => .ok (some account.whatsappBusinessAccountId)

/-- What a page's statement selects without a cursor. What the database takes for a name with a prefix is its own. -/
def wanted (startsWith : String → String → Bool) (businessAccountId : Option Uuid) (q : Option String)
    (row : MessageTemplate) : Bool :=
  row.status = .approved ∧ (∀ id ∈ businessAccountId, row.whatsappBusinessAccountId = id) ∧
    ∀ start ∈ q, startsWith start row.name = true

def resumes (cursor : Option MessageTemplateCursor) (row : MessageTemplate) : Bool :=
  match cursor with
  | none => true
  | some cursor => cursor.name ≤ row.name && !alreadyReturned cursor row

/-- `orderBy`, under the C collation: strings compare by code points. -/
def templateOrderBy (a b : MessageTemplate) : Bool :=
  a.name < b.name ∨ a.name = b.name ∧
    (a.language < b.language ∨ a.language = b.language ∧ a.id.toNat ≤ b.id.toNat)

def pickable (row : MessageTemplate) : Bool :=
  (messageTemplateSendBlockers row.status (describeTemplateComponents row.components)).isEmpty

/-- The page cut from the rows a statement finds, one more than asked for, before any is dropped. -/
def templateWindow (limit : Nat) (rows : List MessageTemplate) : List MessageTemplate × Option String :=
  (rows.take limit, if limit < rows.length then (rows.take limit).getLast?.map encodeMessageTemplateCursor else none)

def list (startsWith : String → String → Bool) (db : TemplateDb) (query : ListMessageTemplatesQuery) :
    Except TemplateListError MessageTemplatePage := do
  let cursor ← readMessageTemplateCursor query.cursor
  let businessAccountId ← resolveBusinessAccountId db query
  let selected := db.templates.filter fun row => wanted startsWith businessAccountId query.q row && resumes cursor row
  let window := templateWindow query.limit ((sortBy templateOrderBy selected).take (query.limit + 1))
  -- The cursor comes from the last row that was read; which rows are dropped does not move it.
  return { items := window.1.filter pickable, nextCursor := window.2 }

def templateKey (row : MessageTemplate) : String ×ₗ String ×ₗ ℕ := toLex (row.name, toLex (row.language, row.id.toNat))

theorem sortsBy_template : SortsBy templateOrderBy templateKey := by
  intro a b
  simp only [templateOrderBy, templateKey, Prod.Lex.toLex_le_toLex, decide_eq_true_eq]

theorem id_eq_of_templateKey (h : templateKey a = templateKey b) : a.id = b.id :=
  BitVec.eq_of_toNat_eq (congrArg (fun k => (ofLex (ofLex k).2).2) h)

/-- A row's cursor leaves what sorts strictly after the row. -/
theorem resumes_iff {a : MessageTemplate} :
    resumes (some { name := a.name, language := a.language, id := a.id }) b = true ↔ templateKey a < templateKey b := by
  simp only [resumes, alreadyReturned, templateKey, Prod.Lex.toLex_lt_toLex, Bool.and_eq_true, decide_eq_true_eq,
    Bool.not_eq_true', decide_eq_false_iff_not, not_and, not_or, not_lt, not_le]
  constructor
  · rintro ⟨hname, hrest⟩
    rcases lt_or_eq_of_le hname with hlt | heq
    · exact .inl hlt
    · obtain ⟨hlanguage, hid⟩ := hrest heq.symm
      rcases lt_or_eq_of_le hlanguage with hlt | hsame
      · exact .inr ⟨heq, .inl hlt⟩
      · exact .inr ⟨heq, .inr ⟨hsame, hid hsame.symm⟩⟩
  · rintro (hlt | ⟨heq, hlt | ⟨hsame, hid⟩⟩)
    · exact ⟨hlt.le, fun h => absurd h hlt.ne'⟩
    · exact ⟨heq.le, fun _ => ⟨hlt.le, fun h => absurd h hlt.ne'⟩⟩
    · exact ⟨heq.le, fun _ => ⟨hsame.le, fun _ => hid⟩⟩

theorem read_encodeMessageTemplateCursor {row : MessageTemplate} (hid : IdAccepted row.id) :
    readMessageTemplateCursor (some (encodeMessageTemplateCursor row)) =
      .ok (some { name := row.name, language := row.language, id := row.id }) := by
  have hdecode := decodeKeysetCursor_encodeKeysetCursor { sortValues := [row.name, row.language], id := row.id } hid
  simp only [readMessageTemplateCursor, encodeMessageTemplateCursor, hdecode]

section Pages

variable (startsWith : String → String → Bool) (db : TemplateDb) (query : ListMessageTemplatesQuery)

def fetchTemplates (cursor : Option String) : Except TemplateListError (List MessageTemplate × Option String) :=
  (list startsWith db { query with cursor }).map fun page => (page.items, page.nextCursor)

variable {startsWith db query}

/-- Every page with its rows dropped or not: what is dropped of the pages is dropped of the whole. -/
theorem follow_filter (p : ρ → Bool) (fetch : Option γ → Except ε (List ρ × Option γ)) (fuel : Nat)
    (cursor : Option γ) : follow (fun c => (fetch c).map fun page => (page.1.filter p, page.2)) fuel cursor =
      (follow fetch fuel cursor).map (List.map (List.filter p)) := by
  induction fuel generalizing cursor with
  | zero => rfl
  | succ fuel ih =>
    simp only [follow]
    cases fetch cursor with
    | error => rfl
    | ok page =>
      obtain ⟨items, next⟩ := page
      cases next with
      | none => rfl
      | some c =>
        refine (congrArg (Option.map (items.filter p :: ·)) (ih (some c))).trans ?_
        dsimp only
        cases follow fetch fuel (some c) <;> rfl

theorem templateWindow_eq (limit : Nat) (rows : List MessageTemplate) :
    templateWindow limit (rows.take (limit + 1)) = window limit (fun row => some (encodeMessageTemplateCursor row)) rows := by
  rw [← window_take, templateWindow, window, Option.map_eq_bind]
  rfl

/-- Whatever the prefix, the account and the page size, following the cursors ends, and gives every approved template
    that matches and that nothing keeps from being sent once, in the order of name, language and id. -/
theorem template_pages (startsWith : String → String → Bool) (db : TemplateDb) (query : ListMessageTemplatesQuery)
    (hids : (db.templates.map MessageTemplate.id).Nodup) (haccepted : ∀ row ∈ db.templates, IdAccepted row.id)
    (businessAccountId : Option Uuid) (hresolved : resolveBusinessAccountId db query = .ok businessAccountId)
    (hlimit : 1 ≤ query.limit) (fuel : Nat) (hfuel : db.templates.length < fuel) :
    ∃ pages, follow (fetchTemplates startsWith db query) fuel none = some pages ∧
      (pages.flatten.Pairwise fun a b => templateKey a < templateKey b) ∧
      ∀ row, row ∈ pages.flatten ↔
        row ∈ db.templates ∧ wanted startsWith businessAccountId query.q row = true ∧ pickable row = true := by
  let rows := db.templates.filter (wanted startsWith businessAccountId query.q)
  let sorted := sortBy templateOrderBy rows
  let fetch (cursor : Option String) : Except TemplateListError (List MessageTemplate × Option String) := do
    let cursor ← readMessageTemplateCursor cursor
    return templateWindow query.limit ((sortBy templateOrderBy (rows.filter (resumes cursor))).take (query.limit + 1))
  have hkeys : (rows.map templateKey).Nodup := by
    have hsub : (rows.map MessageTemplate.id).Nodup := (List.filter_sublist.map _).nodup hids
    exact List.pairwise_map.mpr ((List.pairwise_map.mp hsub).imp fun hne h => hne (id_eq_of_templateKey h))
  have hpicked : fetchTemplates startsWith db query =
      fun c => (fetch c).map fun page => (page.1.filter pickable, page.2) := by
    funext cursor
    have hresolved' : resolveBusinessAccountId db { query with cursor } = .ok businessAccountId := hresolved
    simp only [fetchTemplates, list, hresolved', fetch, rows, List.filter_filter]
    cases readMessageTemplateCursor cursor <;> simp [Except.map, bind, Except.bind, pure, Except.pure, Bool.and_comm]
  have hsorted : sorted.Pairwise fun a b => templateKey a < templateKey b := by
    have hnodup : (sorted.map templateKey).Nodup := ((sortBy_perm _ rows).map templateKey).nodup_iff.mpr hkeys
    exact ((pairwise_sortBy sortsBy_template rows).and (List.pairwise_map.mp hnodup)).imp fun h => lt_of_le_of_ne h.1 h.2
  have hmem : ∀ row, row ∈ sorted ↔ row ∈ db.templates ∧ wanted startsWith businessAccountId query.q row = true :=
    fun row => (sortBy_perm _ rows).mem_iff.trans List.mem_filter
  have hfirst : fetch none = .ok (window query.limit (fun row => some (encodeMessageTemplateCursor row)) sorted) := by
    have hall : rows.filter (resumes none) = rows := List.filter_eq_self.mpr fun _ _ => rfl
    simp only [fetch, readMessageTemplateCursor, bind, Except.bind, pure, Except.pure, hall, templateWindow_eq, sorted]
  have hafter : ∀ row ∈ rows, ∀ c, some (encodeMessageTemplateCursor row) = some c →
      fetch (some c) = .ok (window query.limit (fun row => some (encodeMessageTemplateCursor row))
        (sortBy templateOrderBy (rows.filter fun r => templateKey row < templateKey r))) := by
    intro row hrow c hc
    rw [← Option.some.inj hc]
    have hfilter : rows.filter (resumes (some { name := row.name, language := row.language, id := row.id })) =
        rows.filter fun r => templateKey row < templateKey r :=
      List.filter_congr fun r _ => by rw [Bool.eq_iff_iff, resumes_iff, decide_eq_true_eq]
    simp only [fetch, read_encodeMessageTemplateCursor (haccepted row (List.mem_filter.mp hrow).1), bind, Except.bind, pure,
      Except.pure, hfilter, templateWindow_eq]
  obtain ⟨pages, hpages, hflatten⟩ := follow_window sortsBy_template hkeys hlimit (fun _ _ => by simp) hfirst hafter
    (Nat.lt_of_le_of_lt (List.length_filter_le _ _) hfuel)
  refine ⟨pages.map (List.filter pickable), ?_, ?_, fun row => ?_⟩
  · rw [hpicked, follow_filter, hpages, Option.map_some]
  · rw [← List.filter_flatten, hflatten]
    exact hsorted.filter pickable
  · rw [← List.filter_flatten, hflatten, List.mem_filter, hmem, and_assoc]

/-- Two accounts hold the same template; of the first the button takes a value. -/
def pickedTemplates : TemplateDb where
  templates :=
    [{ id := 0x70008000000000000001, whatsappBusinessAccountId := 1, name := "order", language := "en", category := none
       status := .approved, providerTemplateId := none
       components := some (.array [.object [("type".toList, .string "BUTTONS".toList),
         ("buttons".toList, .array [.object [("type".toList, .string "COPY_CODE".toList)]])]]) },
     { id := 0x70008000000000000002, whatsappBusinessAccountId := 2, name := "order", language := "en", category := none
       status := .approved, providerTemplateId := none, components := none }]
  accounts := []

/-- A page of one row is dropped, and the next one still comes. -/
theorem template_pages_dropped :
    ∃ pages, follow (fetchTemplates (fun start name => start.toList.isPrefixOf name.toList) pickedTemplates
      { limit := 1, q := some "or" }) 3 none = some pages ∧ pages.flatten.Pairwise fun a b => templateKey a < templateKey b := by
  obtain ⟨pages, hpages, hsorted, -⟩ := template_pages (fun start name => start.toList.isPrefixOf name.toList)
    pickedTemplates { limit := 1, q := some "or" } (by decide) (by decide +kernel) none rfl
    (by decide) 3 (by decide)
  exact ⟨pages, hpages, hsorted⟩

end Pages

structure MetaMessageTemplate where
  name : String
  language : String
  category : Option String
  status : Option MessageTemplateStatus
  components : Option Json
  providerTemplateId : Option String

structure MetaTemplatePage where
  templates : List MetaMessageTemplate
  nextAfter : Option String

structure SyncTotals where
  created : Nat := 0
  updated : Nat := 0
  skipped : Nat := 0
  total : Nat := 0

structure ApplicableTemplate where
  template : MetaMessageTemplate
  status : MessageTemplateStatus

def applicable? (template : MetaMessageTemplate) : Option ApplicableTemplate :=
  template.status.map fun status => { template, status }

def Keyed (businessAccountId : Uuid) (t : ApplicableTemplate) (row : MessageTemplate) : Prop :=
  row.whatsappBusinessAccountId = businessAccountId ∧ row.name = t.template.name ∧ row.language = t.template.language

instance (businessAccountId : Uuid) (t : ApplicableTemplate) (row : MessageTemplate) :
    Decidable (Keyed businessAccountId t row) := inferInstanceAs (Decidable (_ ∧ _))

def ApplicableTemplate.update (t : ApplicableTemplate) (row : MessageTemplate) : MessageTemplate :=
  { row with
    category := t.template.category
    status := t.status
    components := t.template.components
    providerTemplateId := t.template.providerTemplateId }

def ApplicableTemplate.create (businessAccountId id : Uuid) (t : ApplicableTemplate) : MessageTemplate where
  id
  whatsappBusinessAccountId := businessAccountId
  name := t.template.name
  language := t.template.language
  category := t.template.category
  status := t.status
  components := t.template.components
  providerTemplateId := t.template.providerTemplateId

structure SyncState where
  rows : List MessageTemplate
  totals : SyncTotals := {}

/-- One step of `applyPage`'s loop. `ids` are the ids of the rows that are created, in turn. -/
def applyTemplate (businessAccountId : Uuid) (ids : Nat → Uuid) (s : SyncState) (t : ApplicableTemplate) : SyncState :=
  match s.rows.find? fun row => Keyed businessAccountId t row with
  | none =>
    { rows := s.rows ++ [t.create businessAccountId (ids s.totals.created)]
      totals := { s.totals with created := s.totals.created + 1 } }
  | some existing =>
    { rows := s.rows.map fun row => if row.id = existing.id then t.update row else row
      totals := { s.totals with updated := s.totals.updated + 1 } }

def syncPage (businessAccountId : Uuid) (ids : Nat → Uuid) (s : SyncState) (templates : List MetaMessageTemplate) :
    SyncState :=
  let applicable := templates.filterMap applicable?
  let counted := { s with totals := { s.totals with
    total := s.totals.total + templates.length
    skipped := s.totals.skipped + (templates.length - applicable.length) } }
  applicable.foldl (applyTemplate businessAccountId ids) counted

/-- `run`'s loop, with what was listed, and whether it came to the last page. -/
def syncFrom (fetch : Option String → MetaTemplatePage) (businessAccountId : Uuid) (ids : Nat → Uuid) :
    Nat → Option String → SyncState → SyncState × List MetaMessageTemplate × Bool
  | 0, _, s => (s, [], false)
  | pages + 1, after, s =>
    let page := fetch after
    let s' := syncPage businessAccountId ids s page.templates
    match page.nextAfter with
    | none => (s', page.templates, true)
    | some next =>
      let rest := syncFrom fetch businessAccountId ids pages (some next) s'
      (rest.1, page.templates ++ rest.2.1, rest.2.2)

def maxPages : Nat := 100

def sync (fetch : Option String → MetaTemplatePage) (businessAccountId : Uuid) (ids : Nat → Uuid)
    (rows : List MessageTemplate) : SyncState × List MetaMessageTemplate × Bool :=
  syncFrom fetch businessAccountId ids maxPages none { rows }

section Sync

variable {account : Uuid} {ids : Nat → Uuid} {rows : List MessageTemplate} {t : ApplicableTemplate}
  {ts : List ApplicableTemplate} {s : SyncState} {row : MessageTemplate}

structure Indexed (rows : List MessageTemplate) : Prop where
  id : (rows.map MessageTemplate.id).Nodup
  key : (rows.map fun row => (row.whatsappBusinessAccountId, row.name, row.language)).Nodup

def settleOne (businessAccountId : Uuid) (row : MessageTemplate) (t : ApplicableTemplate) : MessageTemplate :=
  if Keyed businessAccountId t row then t.update row else row

def settle (businessAccountId : Uuid) (ts : List ApplicableTemplate) (row : MessageTemplate) : MessageTemplate :=
  ts.foldl (settleOne businessAccountId) row

variable {t' : ApplicableTemplate}

theorem keyed_settleOne : Keyed account t' (settleOne account row t) ↔ Keyed account t' row := by
  rw [settleOne]
  split <;> rfl

theorem keyed_settle : Keyed account t' (settle account ts row) ↔ Keyed account t' row := by
  induction ts generalizing row with
  | nil => rfl
  | cons t ts ih => exact ih.trans keyed_settleOne

theorem settle_concat : settle account (ts ++ [t]) row = settleOne account (settle account ts row) t := by
  simp [settle]

theorem id_settleOne : (settleOne account row t).id = row.id := by
  rw [settleOne]
  split <;> rfl

/-- Nothing of a row that a template replaces outlives the template. -/
theorem update_settle : t.update (settle account ts row) = t.update row := by
  induction ts generalizing row with
  | nil => rfl
  | cons t' ts ih =>
    refine ih.trans ?_
    rw [settleOne]
    split <;> rfl

theorem settle_concat_keyed (h : Keyed account t row) (hrow : t.update row = row) :
    settle account (ts ++ [t]) row = row := by
  rw [settle_concat, settleOne, if_pos (keyed_settle.mpr h), update_settle, hrow]

theorem applyTemplate_eq (account : Uuid) (ids : Nat → Uuid) (t : ApplicableTemplate) (h : Indexed s.rows) :
    (applyTemplate account ids s t =
        { rows := s.rows.map fun row => settleOne account row t
          totals := { s.totals with updated := s.totals.updated + 1 } } ∧
      ∃ row ∈ s.rows, Keyed account t row) ∨
    (applyTemplate account ids s t =
        { rows := s.rows ++ [t.create account (ids s.totals.created)]
          totals := { s.totals with created := s.totals.created + 1 } } ∧
      ∀ row ∈ s.rows, ¬ Keyed account t row) := by
  unfold applyTemplate
  split
  · rename_i hnone
    exact .inr ⟨rfl, fun row hrow => by simpa using List.find?_eq_none.mp hnone row hrow⟩
  · rename_i existing hfound
    have hmem := List.mem_of_find?_eq_some hfound
    have hkeyed : Keyed account t existing := by simpa using List.find?_some hfound
    refine .inl ⟨?_, existing, hmem, hkeyed⟩
    have hrows : (s.rows.map fun row => if row.id = existing.id then t.update row else row) =
        s.rows.map fun row => settleOne account row t := by
      refine List.map_congr_left fun row hrow => ?_
      have hiff : row.id = existing.id ↔ Keyed account t row := by
        constructor
        · intro hid
          rw [List.inj_on_of_nodup_map h.id hrow hmem hid]
          exact hkeyed
        · rintro ⟨haccount, hname, hlanguage⟩
          obtain ⟨haccount', hname', hlanguage'⟩ := hkeyed
          rw [List.inj_on_of_nodup_map h.key hrow hmem (by simp [*])]
      simp only [settleOne, hiff]
    rw [hrows]

theorem Indexed.settled (h : Indexed rows) : Indexed (rows.map fun row => settleOne account row t) := by
  have hfield : ∀ row, (settleOne account row t).id = row.id ∧
      ((settleOne account row t).whatsappBusinessAccountId, (settleOne account row t).name,
        (settleOne account row t).language) = (row.whatsappBusinessAccountId, row.name, row.language) := by
    intro row
    rw [settleOne]
    split <;> exact ⟨rfl, rfl⟩
  constructor
  · rw [List.map_map]
    exact (List.map_congr_left fun row _ => (hfield row).1) ▸ h.id
  · rw [List.map_map]
    exact (List.map_congr_left fun row _ => (hfield row).2) ▸ h.key

/-- Where the rows stand after some templates: each is as the templates left it, and all their keys have one. -/
structure Synced (account : Uuid) (ids : Nat → Uuid) (rows : List MessageTemplate)
    (ts : List ApplicableTemplate) (s : SyncState) : Prop where
  indexed : Indexed s.rows
  minted : s.rows.map MessageTemplate.id = rows.map MessageTemplate.id ++ (List.range s.totals.created).map ids
  settled : ∀ row ∈ s.rows, settle account ts row = row
  stored : ∀ t ∈ ts, ∃ row ∈ s.rows, Keyed account t row
  untouched : ∀ row, (∀ t ∈ ts, ¬ Keyed account t row) → (row ∈ s.rows ↔ row ∈ rows)
  counted : s.totals.created + s.totals.updated = ts.length

theorem Synced.step (h : Synced account ids rows ts s) (hlength : ts.length < n)
    (hfresh : (rows.map MessageTemplate.id ++ (List.range n).map ids).Nodup) :
    Synced account ids rows (ts ++ [t]) (applyTemplate account ids s t) := by
  have hcounted := h.counted
  rcases applyTemplate_eq account ids t h.indexed with
    ⟨heq, existing, hexisting, hkeyed⟩ | ⟨heq, hnone⟩
  · rw [heq]
    constructor
    · exact h.indexed.settled
    · rw [← h.minted, List.map_map]
      exact List.map_congr_left fun row _ => id_settleOne
    · intro row hrow
      obtain ⟨before, hbefore, rfl⟩ := List.mem_map.mp hrow
      by_cases hkey : Keyed account t before
      · rw [show settleOne account before t = t.update before from if_pos hkey]
        exact settle_concat_keyed hkey rfl
      · have hone : settleOne account before t = before := if_neg hkey
        rw [settle_concat, hone, h.settled before hbefore, hone]
    · intro t' ht'
      obtain ⟨row, hrow, hkey⟩ : ∃ row ∈ s.rows, Keyed account t' row := by
        rcases List.mem_append.mp ht' with ht' | ht'
        · exact h.stored t' ht'
        · exact ⟨existing, hexisting, List.mem_singleton.mp ht' ▸ hkeyed⟩
      exact ⟨_, List.mem_map_of_mem hrow, keyed_settleOne.mpr hkey⟩
    · intro row hrow
      have hnot := hrow t (List.mem_append_right ts List.mem_cons_self)
      rw [← h.untouched row fun t' ht' => hrow t' (List.mem_append_left _ ht')]
      constructor
      · intro hmem
        obtain ⟨before, hbefore, rfl⟩ := List.mem_map.mp hmem
        have hkey : ¬ Keyed account t before := fun hkey => hnot (keyed_settleOne.mpr hkey)
        rwa [show settleOne account before t = before from if_neg hkey]
      · exact fun hmem => List.mem_map.mpr ⟨row, hmem, if_neg hnot⟩
    · simp
      omega
  · rw [heq]
    have hminted : s.rows.map MessageTemplate.id ++ [ids s.totals.created] =
        rows.map MessageTemplate.id ++ (List.range (s.totals.created + 1)).map ids := by
      rw [h.minted, List.range_succ, List.map_append, List.append_assoc]
      rfl
    constructor
    · constructor
      · rw [List.map_append]
        refine hminted ▸ List.Sublist.nodup ?_ hfresh
        exact (List.Sublist.refl _).append ((List.range_sublist.mpr (by omega)).map ids)
      · rw [List.map_append, List.nodup_append]
        refine ⟨h.indexed.key, List.nodup_singleton _, fun k hk k' hk' heq => ?_⟩
        obtain ⟨row, hrow, rfl⟩ := List.mem_map.mp hk
        rw [List.mem_singleton.mp hk'] at heq
        simp only [ApplicableTemplate.create, Prod.mk.injEq] at heq
        exact hnone row hrow heq
    · rw [List.map_append]
      exact hminted
    · intro row hrow
      rcases Table.mem_snoc.mp hrow with hrow | rfl
      · rw [settle_concat, h.settled row hrow]
        exact if_neg (hnone row hrow)
      · exact settle_concat_keyed ⟨rfl, rfl, rfl⟩ rfl
    · intro t' ht'
      rcases Table.mem_snoc.mp ht' with ht' | rfl
      · obtain ⟨row, hrow, hkey⟩ := h.stored t' ht'
        exact ⟨row, List.mem_append_left _ hrow, hkey⟩
      · exact ⟨_, List.mem_append_right _ List.mem_cons_self, rfl, rfl, rfl⟩
    · intro row hrow
      rw [← h.untouched row fun t' ht' => hrow t' (List.mem_append_left _ ht'), List.mem_append, List.mem_singleton]
      refine or_iff_left fun hnew => hrow t (List.mem_append_right ts List.mem_cons_self) ?_
      rw [hnew]
      exact ⟨rfl, rfl, rfl⟩
    · simp
      omega

structure Again (account : Uuid) (rows : List MessageTemplate) (ts : List ApplicableTemplate) (s : SyncState) : Prop where
  indexed : Indexed s.rows
  rows_eq : s.rows = rows.map (settle account ts)
  created : s.totals.created = 0

theorem Again.step (ids : Nat → Uuid) (h : Again account rows ts s) (hstored : ∃ row ∈ rows, Keyed account t row) :
    Again account rows (ts ++ [t]) (applyTemplate account ids s t) := by
  obtain ⟨row, hrow, hkeyed⟩ := hstored
  rcases applyTemplate_eq account ids t h.indexed with
    ⟨heq, -⟩ | ⟨-, hnone⟩
  · rw [heq]
    refine ⟨h.indexed.settled, ?_, h.created⟩
    simp only [h.rows_eq, List.map_map]
    exact List.map_congr_left fun row _ => settle_concat.symm
  · refine absurd (keyed_settle.mpr hkeyed) (hnone (settle account ts row) ?_)
    rw [h.rows_eq]
    exact List.mem_map_of_mem hrow

variable {fetch : Option String → MetaTemplatePage}

/-- What each template of the list keeps, on top of those before it, the pages keep; the other counts do not matter. -/
theorem syncFrom_induct (fetch : Option String → MetaTemplatePage) (pages : Nat) (after : Option String)
    {P : List ApplicableTemplate → SyncState → Prop}
    (hcounts : ∀ ts s total skipped, P ts s → P ts { s with totals := { s.totals with total, skipped } })
    (hstep : ∀ ts t s, ts ++ [t] <+: all → P ts s → P (ts ++ [t]) (applyTemplate account ids s t))
    (hs : P ts s) (hall : ts ++ (syncFrom fetch account ids pages after s).2.1.filterMap applicable? <+: all) :
    P (ts ++ (syncFrom fetch account ids pages after s).2.1.filterMap applicable?)
      (syncFrom fetch account ids pages after s).1 := by
  have hfold : ∀ more ts s, ts ++ more <+: all → P ts s → P (ts ++ more) (more.foldl (applyTemplate account ids) s) := by
    intro more
    induction more with
    | nil =>
      intro ts s _ hs
      simpa using hs
    | cons t more ih =>
      intro ts s hprefix hs
      rw [← List.singleton_append, ← List.append_assoc] at hprefix ⊢
      exact ih (ts ++ [t]) _ hprefix (hstep ts t s ((List.prefix_append _ _).trans hprefix) hs)
  induction pages generalizing after ts s with
  | zero => simpa [syncFrom] using hs
  | succ pages ih =>
    rw [syncFrom] at hall ⊢
    split at hall
    · exact hfold _ ts _ hall (hcounts ts s _ _ hs)
    · rw [List.filterMap_append, ← List.append_assoc] at hall ⊢
      exact ih _ (hfold _ ts _ ((List.prefix_append _ _).trans hall) (hcounts ts s _ _ hs)) hall

theorem syncFrom_listed {ids' : Nat → Uuid} :
    (syncFrom fetch account ids pages after s).2 = (syncFrom fetch account ids' pages after s').2 := by
  induction pages generalizing after s s' with
  | zero => rfl
  | succ pages ih =>
    simp only [syncFrom]
    cases (fetch after).nextAfter with
    | none => rfl
    | some next =>
      have hrest := @ih (syncPage account ids s (fetch after).templates) (some next)
        (syncPage account ids' s' (fetch after).templates)
      simp only [hrest]

theorem syncPage_total (s : SyncState) (templates : List MetaMessageTemplate) :
    (syncPage account ids s templates).totals.total = s.totals.total + templates.length ∧
      (syncPage account ids s templates).totals.skipped + (templates.filterMap applicable?).length =
        s.totals.skipped + templates.length := by
  have hone : ∀ s t, (applyTemplate account ids s t).totals.total = s.totals.total ∧
      (applyTemplate account ids s t).totals.skipped = s.totals.skipped := by
    intro s t
    unfold applyTemplate
    split <;> exact ⟨rfl, rfl⟩
  have hfold : ∀ (more : List ApplicableTemplate) s,
      (more.foldl (applyTemplate account ids) s).totals.total = s.totals.total ∧
        (more.foldl (applyTemplate account ids) s).totals.skipped = s.totals.skipped := by
    intro more
    induction more with
    | nil => exact fun s => ⟨rfl, rfl⟩
    | cons t more ih => exact fun s => ⟨(ih _).1.trans (hone s t).1, (ih _).2.trans (hone s t).2⟩
  have hle := List.length_filterMap_le applicable? templates
  unfold syncPage
  refine ⟨(hfold _ _).1, ?_⟩
  rw [(hfold _ _).2]
  dsimp only
  omega

theorem syncFrom_total (pages : Nat) (after : Option String) (s : SyncState) :
    let run := syncFrom fetch account ids pages after s
    run.1.totals.total = s.totals.total + run.2.1.length ∧
      run.1.totals.skipped + (run.2.1.filterMap applicable?).length = s.totals.skipped + run.2.1.length := by
  induction pages generalizing after s with
  | zero => exact ⟨rfl, rfl⟩
  | succ pages ih =>
    have hpage := @syncPage_total account ids s (fetch after).templates
    simp only [syncFrom]
    cases (fetch after).nextAfter with
    | none => exact hpage
    | some next =>
      have hrest := ih (some next) (syncPage account ids s (fetch after).templates)
      dsimp only at hrest ⊢
      rw [List.filterMap_append, List.length_append, List.length_append]
      omega

theorem settle_eq_last (ht : t ∈ ts) (hkeyed : Keyed account t row) :
    ∃ before last after, ts = before ++ last :: after ∧ Keyed account last row ∧
      (∀ t' ∈ after, ¬ Keyed account t' row) ∧ settle account ts row = last.update row := by
  induction ts using List.reverseRecOn with
  | nil => cases ht
  | append_singleton ts u ih =>
    rw [settle_concat, settleOne]
    by_cases hu : Keyed account u row
    · refine ⟨ts, u, [], by simp, hu, by simp, ?_⟩
      rw [if_pos (keyed_settle.mpr hu), update_settle]
    · have hts : t ∈ ts := (List.mem_append.mp ht).resolve_right fun h => hu (List.mem_singleton.mp h ▸ hkeyed)
      obtain ⟨before, last, after, rfl, hlast, hafter, hsettle⟩ := ih hts
      refine ⟨before, last, after ++ [u], by simp, hlast, fun t' ht' => ?_, ?_⟩
      · rcases List.mem_append.mp ht' with ht' | ht'
        · exact hafter t' ht'
        · exact List.mem_singleton.mp ht' ▸ hu
      · rw [if_neg (fun h => hu (keyed_settle.mp h)), hsettle]

/-- After a synchronisation every listed template of a known status has a row, which reads as the last under its key;
    the other rows are as they were; again it changes nothing; and every template is counted once. -/
theorem sync_honest (fetch : Option String → MetaTemplatePage) (businessAccountId : Uuid) (ids ids' : Nat → Uuid)
    (rows : List MessageTemplate) (hrows : Indexed rows) (hfresh : (rows.map MessageTemplate.id ++
      (List.range (sync fetch businessAccountId ids rows).2.1.length).map ids).Nodup) :
    let first := sync fetch businessAccountId ids rows
    let again := sync fetch businessAccountId ids' first.1.rows
    let listed := first.2.1.filterMap applicable?
    (∀ t ∈ listed, ∃ row ∈ first.1.rows, Keyed businessAccountId t row) ∧
    (∀ row ∈ first.1.rows, ∀ t ∈ listed, Keyed businessAccountId t row →
      ∃ before last after, listed = before ++ last :: after ∧ Keyed businessAccountId last row ∧
        (∀ t' ∈ after, ¬ Keyed businessAccountId t' row) ∧ row.status = last.status ∧
          row.category = last.template.category ∧ row.components = last.template.components) ∧
    (∀ row, (∀ t ∈ listed, ¬ Keyed businessAccountId t row) → (row ∈ first.1.rows ↔ row ∈ rows)) ∧
    (again.1.rows = first.1.rows ∧ again.1.totals.created = 0) ∧
    first.1.totals.created + first.1.totals.updated + first.1.totals.skipped = first.1.totals.total ∧
    first.1.totals.total = first.2.1.length := by
  intro first again listed
  have hstart : Synced businessAccountId ids rows [] { rows } :=
    ⟨hrows, by simp, fun _ _ => rfl, by simp, fun _ _ => Iff.rfl, rfl⟩
  have hsynced : Synced businessAccountId ids rows listed first.1 := by
    refine syncFrom_induct fetch maxPages none (P := Synced businessAccountId ids rows)
      (fun ts s _ _ h => ⟨h.indexed, h.minted, h.settled, h.stored, h.untouched, h.counted⟩) ?_ hstart List.prefix_rfl
    intro ts t s hlisted h
    have hlength : (ts ++ [t]).length ≤ listed.length := hlisted.length_le
    rw [List.length_append, List.length_singleton] at hlength
    have hle : listed.length ≤ first.2.1.length := List.length_filterMap_le _ _
    exact h.step (Nat.lt_of_lt_of_le hlength hle) hfresh
  have hlisted : again.2.1.filterMap applicable? = listed := by
    rw [show again.2 = first.2 from syncFrom_listed]
  have hagain : Again businessAccountId first.1.rows listed again.1 := by
    have hbegin : Again businessAccountId first.1.rows [] { rows := first.1.rows } :=
      ⟨hsynced.indexed, (List.map_id _).symm, rfl⟩
    have h := syncFrom_induct fetch maxPages none (P := Again businessAccountId first.1.rows)
      (fun ts s _ _ h => ⟨h.indexed, h.rows_eq, h.created⟩)
      (fun ts t s hlisted h => h.step ids'
        (hsynced.stored t (hlisted.subset (List.mem_append_right ts List.mem_cons_self))))
      hbegin (hlisted ▸ List.prefix_rfl)
    rw [List.nil_append] at h
    exact hlisted ▸ h
  obtain ⟨htotal, hskipped⟩ := @syncFrom_total businessAccountId ids fetch maxPages none { rows }
  refine ⟨hsynced.stored, ?_, hsynced.untouched, ⟨?_, hagain.created⟩, ?_, htotal.trans (Nat.zero_add _)⟩
  · intro row hrow t ht hkeyed
    obtain ⟨before, last, after, hsplit, hlast, hafter, hsettle⟩ := settle_eq_last ht hkeyed
    rw [hsynced.settled row hrow] at hsettle
    exact ⟨before, last, after, hsplit, hlast, hafter, by rw [hsettle]; rfl, by rw [hsettle]; rfl, by rw [hsettle]; rfl⟩
  · rw [hagain.rows_eq]
    calc first.1.rows.map (settle businessAccountId listed) = first.1.rows.map id :=
          List.map_congr_left fun row hrow => hsynced.settled row hrow
      _ = first.1.rows := List.map_id _
  · have hcounted := hsynced.counted
    have hskip : first.1.totals.skipped + listed.length = first.2.1.length := hskipped.trans (Nat.zero_add _)
    have htot : first.1.totals.total = first.2.1.length := htotal.trans (Nat.zero_add _)
    omega

def listedTwice (_ : Option String) : MetaTemplatePage where
  templates :=
    [{ name := "order", language := "en", category := none, status := some .pending, components := none
       providerTemplateId := none },
     { name := "order", language := "en", category := none, status := some .approved, components := none
       providerTemplateId := none }]
  nextAfter := none

theorem sync_honest_twice :
    (sync listedTwice 1 (fun n => .ofNat 128 n) (sync listedTwice 1 (fun n => .ofNat 128 n) []).1.rows).1.totals.created = 0 :=
  (sync_honest listedTwice 1 (fun n => .ofNat 128 n) (fun n => .ofNat 128 n) [] ⟨by decide, by decide⟩
    (by decide +kernel)).2.2.2.1.2

def approvedRow : MessageTemplate where
  id := 9
  whatsappBusinessAccountId := 1
  name := "order"
  language := "en"
  category := none
  status := .approved
  components := none
  providerTemplateId := none

def listedUnknown (_ : Option String) : MetaTemplatePage where
  templates :=
    [{ name := "order", language := "en", category := none, status := none, components := none, providerTemplateId := none },
     { name := "sale", language := "en", category := none, status := none, components := none, providerTemplateId := none }]
  nextAfter := none

/-- A template whose status is not modelled is skipped: its row stays approved, and without a row it gets none. -/
theorem unknown_status_skipped :
    (sync listedUnknown 1 (fun n => .ofNat 128 n) [approvedRow]).2 = ((listedUnknown none).templates, true) ∧
      (∀ template ∈ (listedUnknown none).templates, template.status ≠ some .approved) ∧
      (sync listedUnknown 1 (fun n => .ofNat 128 n) [approvedRow]).1.rows = [approvedRow] :=
  ⟨rfl, by simp [listedUnknown], rfl⟩

end Sync

end WhatsappCrm.Templates
