import AccreditationBackend.Kernel.Procedures

/-! Lookups of categories and zones. -/

set_option autoImplicit false

namespace AccreditationBackend

open Foundation (Proc)

def categoryNotFound : DomainError :=
  { code := "CATEGORY_NOT_FOUND", message := "Categorie introuvable.", kind := .notFound }

def zoneNotFound : DomainError :=
  { code := "ZONE_NOT_FOUND", message := "Zone introuvable.", kind := .notFound }

def getCategory (id : Uuid) : Op AccreditationCategory := do
  let found ← Proc.query fun db => db.categories.find (·.id == id)
  orThrow found categoryNotFound

def getZone (id : Uuid) : Op Zone := do
  let found ← Proc.query fun db => db.zones.find (·.id == id)
  orThrow found zoneNotFound

theorem getCategory_issues {P : Statement → Prop} (id : Uuid) : (getCategory id).Issues P :=
  fun _ => orThrow_issues _ _

theorem getZone_issues {P : Statement → Prop} (id : Uuid) : (getZone id).Issues P :=
  fun _ => orThrow_issues _ _

end AccreditationBackend
