import AccreditationBackend.Competitions.Matches
import AccreditationBackend.AccreditationConfig.Lookups

/-! Quotas of a match and category, and the lock on their slots. -/

set_option autoImplicit false

namespace AccreditationBackend

open Foundation (Proc)

def quotaNotConfigured : DomainError where
  code := "QUOTA_NOT_CONFIGURED"
  message := "Aucun quota n'est configure pour ce match et cette categorie."
  kind := .conflict

structure ReservationResult where
  reserved : Bool
  overflowPolicy : OverflowPolicy
  quotaTotal : Nat
  consumed : Int
  deriving DecidableEq, Repr

def getZones : List Uuid → Op Unit
  | [] => return
  | zoneId :: rest => do
      let _ ← getZone zoneId
      getZones rest

theorem getZones_issues {P : Statement → Prop} (zoneIds : List Uuid) : (getZones zoneIds).Issues P := by
  induction zoneIds with
  | nil => trivial
  | cons zoneId rest ih => exact Proc.issues_bind _ _ _ (getZone_issues zoneId) fun _ => ih

def setQuota (ambient : Ambient) (matchId : Uuid) (dto : SetQuotaDto) : Op MatchCategoryQuota := do
  let _ ← getMatch matchId
  let _ ← getCategory dto.categoryId
  getZones dto.zoneIds
  issue (.setQuota ambient.freshId matchId dto)

def getQuotaRow (matchId categoryId : Uuid) : Op MatchCategoryQuota := do
  let found ← Proc.query fun db => db.quotaRow matchId categoryId
  orThrow found quotaNotConfigured

@[simp] theorem getQuotaRow_bind {A : Type} (matchId categoryId : Uuid) (f : MatchCategoryQuota → Op A) :
    (getQuotaRow matchId categoryId >>= f) =
      .read fun db => orThrow (db.quotaRow matchId categoryId) quotaNotConfigured >>= f := rfl

theorem getQuotaRow_issues {P : Statement → Prop} (matchId categoryId : Uuid) :
    (getQuotaRow matchId categoryId).Issues P := fun _ => orThrow_issues _ _

/-- The guard compares with the total as read, not with the total as stored. -/
def reserveSlot (matchId categoryId : Uuid) : Op ReservationResult := do
  let quota ← getQuotaRow matchId categoryId
  let updated : Nat ← issue (.reserve quota.id quota.quotaTotal)
  let fresh ← getQuotaRow matchId categoryId
  return {
    reserved := updated == 1
    overflowPolicy := fresh.overflowPolicy
    quotaTotal := fresh.quotaTotal
    consumed := fresh.consumed }

def releaseSlot (matchId categoryId : Uuid) : Op Unit := do
  let quota ← getQuotaRow matchId categoryId
  if quota.consumed ≤ 0 then return else issue (.release quota.id)

/-! ## Statements issued -/

section Issues

variable {P : Statement → Prop} {matchId categoryId : Uuid}

theorem reserveSlot_issues (reserves : ∀ id limit, P (.reserve id limit)) :
    (reserveSlot matchId categoryId).Issues P := by
  unfold reserveSlot
  refine Proc.issues_bind _ _ _ (getQuotaRow_issues matchId categoryId) fun quota => ?_
  refine Proc.issues_bind _ _ _ (issue_issues (reserves _ _)) fun updated => ?_
  exact Proc.issues_bind _ _ _ (getQuotaRow_issues matchId categoryId) fun fresh => trivial

theorem edit_issues {ambient : Ambient} {dto : SetQuotaDto}
    (edits : P (.setQuota ambient.freshId matchId dto)) : (setQuota ambient matchId dto).Issues P := by
  unfold setQuota
  refine Proc.issues_bind _ _ _ (getMatch_issues _) fun _ => ?_
  refine Proc.issues_bind _ _ _ (getCategory_issues _) fun _ => ?_
  exact Proc.issues_bind _ _ _ (getZones_issues _) fun _ => issue_issues edits

theorem edit_single (ambient : Ambient) (matchId : Uuid) (dto : SetQuotaDto) :
    (setQuota ambient matchId dto).Single := by
  unfold setQuota
  refine Proc.silent_bind (getMatch_issues _) fun _ => ?_
  refine Proc.silent_bind (getCategory_issues _) fun _ => ?_
  exact Proc.silent_bind (getZones_issues _) fun _ => issue_single _

theorem releaseSlot_issues (releases : ∀ id, P (.release id)) :
    (releaseSlot matchId categoryId).Issues P := by
  unfold releaseSlot
  refine Proc.issues_bind _ _ _ (getQuotaRow_issues matchId categoryId) fun quota => ?_
  split
  · trivial
  · exact issue_issues (releases quota.id)

end Issues

end AccreditationBackend
