/-
Purpose: The order in which a tenant's routing rules are tried and its workflows run, and what a new position for one of
  them does to it.
-/
import WhatsappCrm.Assignment.Rules
import WhatsappCrm.Workflows.Service

namespace WhatsappCrm.Workflows

open Interleaving Positions

section Rules

open Assignment

def rulePlaces (tenantId : Uuid) (db : RuleDb) : List (Seat Nat) := ruleSeats.seats (mine tenantId) db.rules

variable {citext : String → String} {tenantId : Uuid} {db : RuleDb} {before : Assignment.AssignmentRule}

theorem rulePlaces_update (hids : (db.rules.map Assignment.AssignmentRule.id).Nodup) (hbefore : before ∈ db.rules)
    (htenant : before.tenantId = tenantId) {input : AssignmentRuleUpdateInput}
    (hposition : input.position = some new) (h : Assignment.update citext tenantId before.id input db = .ok db') :
    rulePlaces tenantId db' = move before.id.toNat before.position new (rulePlaces tenantId db) := by
  unfold Assignment.update at h
  rw [findRule_eq hids hbefore htenant] at h
  dsimp only at h
  cases hrefusal : updateRefusal citext db tenantId before input with
  | some =>
    rw [hrefusal] at h
    cases h
  | none =>
    rw [hrefusal] at h
    cases h
    have hshift : Assignment.shiftFor tenantId before input db.rules =
        ruleSeats.shiftBetween (mine tenantId) before.id.toNat before.position new db.rules := by
      unfold Assignment.shiftFor
      rw [hposition]
      dsimp only
      split
      · rename_i hsame
        rw [hsame, Seating.shiftBetween_self]
      · rfl
    rw [rulePlaces, hshift]
    apply Seating.seats_rewrite
    · exact fun _ _ => rfl
    · intro r
      exact ⟨rfl, rfl, by simp [ruleSeats, AssignmentRuleUpdateInput.write, hposition]⟩

end Rules

section Workflows

open Config

def workflowPlaces (tenantId : Uuid) (db : ConfigDb) : List (Seat Nat) :=
  workflowSeats.seats (Config.mine tenantId) db.workflows

variable {citext : String → String} {tenantId : Uuid} {db : ConfigDb} {before : WorkflowRow}

theorem workflowPlaces_update (hids : (db.workflows.map fun w => w.id).Nodup) (hbefore : before ∈ db.workflows)
    (htenant : before.tenantId = tenantId) {input : WorkflowUpdateInput} (hposition : input.position = some new)
    (h : (Config.update citext tenantId before.id input).run.alone db = (.ok (), db')) :
    workflowPlaces tenantId db' = move before.id.toNat before.position new (workflowPlaces tenantId db) := by
  obtain ⟨found, s, hread, hrest⟩ := Throwing.of_alone_bind h
  rw [query_alone] at hread
  cases hread
  rw [findWorkflow_eq hids hbefore htenant] at hrest
  obtain ⟨definition, resolved, hedit⟩ := updateRow_alone hrest
  have hshift : Config.shiftFor tenantId before.id before.position (editFor definition input resolved).position
      db.workflows = workflowSeats.shiftBetween (Config.mine tenantId) before.id.toNat before.position new db.workflows := by
    unfold Config.shiftFor editFor
    rw [hposition]
    dsimp only
    split
    · rename_i hsame
      rw [hsame, Seating.shiftBetween_self]
    · rfl
  rw [workflowPlaces, (applyEdit_ok hedit).workflows, hshift]
  apply Seating.seats_rewrite
  · exact fun _ _ => rfl
  · intro w
    exact ⟨rfl, rfl, by simp [workflowSeats, WorkflowEdit.write, editFor, hposition]⟩

end Workflows

theorem seat_mem {P : Seating ρ Nat} (hr : r ∈ rows) (hmine : mine r = true) : P.seat r ∈ P.seats mine rows :=
  List.mem_map_of_mem (List.mem_filter.mpr ⟨hr, hmine⟩)

theorem seats_nodup {P : Seating ρ Nat} {id : ρ → Uuid} (hid : ∀ r, P.id r = (id r).toNat) (mine : ρ → Bool)
    {rows : List ρ} (hids : (rows.map id).Nodup) : ((P.seats mine rows).map Seat.id).Nodup := by
  have hmap : (P.seats mine rows).map Seat.id = ((rows.filter mine).map id).map BitVec.toNat := by
    rw [Seating.seats, List.map_map, List.map_map]
    exact List.map_congr_left fun r _ => hid r
  rw [hmap]
  exact (hids.sublist (List.filter_sublist.map id)).map fun _ _ => BitVec.eq_of_toNat_eq

/-- An update with a position moves its own item to where it was asked and nothing else exactly when no other item at
    the old place has the neighbour on the way with an id on the wrong side. -/
theorem reordering_moves_only_its_item (citext : String → String) (tenantId : Uuid) :
    (∀ db db' : Assignment.RuleDb, (db.rules.map fun r => r.id).Nodup → ∀ before ∈ db.rules, before.tenantId = tenantId →
      ∀ input : Assignment.AssignmentRuleUpdateInput, ∀ new : Int, input.position = some new →
        Assignment.update citext tenantId before.id input db = .ok db' →
          (MovesOnly before.id.toNat before.position new (rulePlaces tenantId db) (rulePlaces tenantId db') ↔
            ∀ a ∈ rulePlaces tenantId db, ∀ b ∈ rulePlaces tenantId db, a.id ≠ before.id.toNat → b.id ≠ before.id.toNat →
              ¬Overtaken before.position new a b)) ∧
      (∀ db db' : Config.ConfigDb, (db.workflows.map fun w => w.id).Nodup → ∀ before ∈ db.workflows,
        before.tenantId = tenantId → ∀ input : Config.WorkflowUpdateInput, ∀ new : Int, input.position = some new →
          (Config.update citext tenantId before.id input).run.alone db = (.ok (), db') →
            (MovesOnly before.id.toNat before.position new (workflowPlaces tenantId db) (workflowPlaces tenantId db') ↔
              ∀ a ∈ workflowPlaces tenantId db, ∀ b ∈ workflowPlaces tenantId db,
                a.id ≠ before.id.toNat → b.id ≠ before.id.toNat → ¬Overtaken before.position new a b)) := by
  constructor
  · intro db db' hids before hbefore htenant input new hposition h
    rw [rulePlaces_update hids hbefore htenant hposition h]
    have hnodup : ((rulePlaces tenantId db).map Seat.id).Nodup := seats_nodup (fun _ => rfl) _ hids
    exact movesOnly_move_iff hnodup (seat_mem hbefore (decide_eq_true htenant)) new
  · intro db db' hids before hbefore htenant input new hposition h
    rw [workflowPlaces_update hids hbefore htenant hposition h]
    have hnodup : ((workflowPlaces tenantId db).map Seat.id).Nodup := seats_nodup (fun _ => rfl) _ hids
    exact movesOnly_move_iff hnodup (seat_mem hbefore (decide_eq_true htenant)) new

def queueRule (id : Uuid) (name : String) (position : Int) : Assignment.AssignmentRule where
  id := id
  tenantId := 9
  name := name
  position := position
  isActive := true
  conditions := some [.businessHours true]
  targetUserId := some 5
  targetTeamId := none

def closeOnCreation : WorkflowDefinition where
  trigger := .ticketCreated
  actions := [.setStatus .closed]

def queueWorkflow (id : Uuid) (name : String) (position : Int) : Config.WorkflowRow where
  id := id
  tenantId := 9
  name := name
  position := position
  triggerType := .ticketCreated
  definition := some closeOnCreation

theorem reordering_moves_only_its_item_two :
    MovesOnly 1 0 1 (rulePlaces 9 { rules := [queueRule 1 "Refunds" 0, queueRule 2 "Orders" 1] })
        (rulePlaces 9 { rules := [queueRule 1 "Refunds" 1, queueRule 2 "Orders" 0] }) ∧
      MovesOnly 1 0 1 (workflowPlaces 9 { workflows := [queueWorkflow 1 "Refunds" 0, queueWorkflow 2 "Orders" 1] })
        (workflowPlaces 9 { workflows := [queueWorkflow 1 "Refunds" 1, queueWorkflow 2 "Orders" 0] }) := by
  constructor
  · apply ((reordering_moves_only_its_item id 9).1 { rules := [queueRule 1 "Refunds" 0, queueRule 2 "Orders" 1] }
      { rules := [queueRule 1 "Refunds" 1, queueRule 2 "Orders" 0] } (by decide) (queueRule 1 "Refunds" 0) (by decide) rfl
      ⟨{ position := some 1 }⟩ 1 rfl rfl).mpr
    decide
  · apply ((reordering_moves_only_its_item id 9).2 { workflows := [queueWorkflow 1 "Refunds" 0, queueWorkflow 2 "Orders" 1] }
      { workflows := [queueWorkflow 1 "Refunds" 1, queueWorkflow 2 "Orders" 0] } (by decide) (queueWorkflow 1 "Refunds" 0)
      (by decide) rfl { position := some 1 } 1 rfl rfl).mpr
    decide

/-- The rules as three calls of `create` leave them, and what moving the second one to 1 makes of them. -/
theorem moving_a_rule_turns_two_others_round :
    let input (name : String) (position : Int) : Assignment.AssignmentRuleCreateInput :=
      { name, conditions := [.businessHours true], target := .user 5, position := some position, isActive := true }
    let created := { rules := [queueRule 1 "Refunds" 1, queueRule 2 "Orders" 0, queueRule 3 "Returns" 0], users := [(9, 5)] }
    let updated := { rules := [queueRule 1 "Refunds" 0, queueRule 2 "Orders" 1, queueRule 3 "Returns" 0], users := [(9, 5)] }
    (((Assignment.create id 9 1 (input "Refunds" 1) { users := [(9, 5)] }).bind
        (Assignment.create id 9 2 (input "Orders" 0))).bind (Assignment.create id 9 3 (input "Returns" 0)) = .ok created) ∧
      Assignment.update id 9 2 ⟨{ position := some 1 }⟩ created = .ok updated ∧
      Precedes (rulePlaces 9 created) 3 1 ∧ ¬Precedes (rulePlaces 9 updated) 3 1 := by
  refine ⟨rfl, rfl, ?_, ?_⟩
  · decide
  · decide

end WhatsappCrm.Workflows
