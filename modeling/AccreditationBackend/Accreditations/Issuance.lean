import AccreditationBackend.Requests.Decisions

/-! What the generation of a badge leaves behind, whether it returns or not. -/

set_option autoImplicit false

namespace AccreditationBackend

open Foundation

/-- The badge row that the generation inserts, with the signature made for it. -/
def issuedBadge (services : Services) (ambient : Ambient) (issuedAt : Time) (requestId : Uuid)
    (zoneIds : List Uuid) (options : GenerateAccreditationOptions) (detail : RequestDetail)
    (number : String) : Accreditation :=
  let expiresAt := detail.matchRow.kickoffAt + defaultValidityDays * 86400000
  { id := ambient.freshId
    requestId
    number
    status := .active
    qrTokenHash := services.hash ambient.rawToken
    issuedAt
    expiresAt
    assignedBoothNumber := options.assignedBoothNumber
    assignedFlashSlot := options.assignedFlashSlot
    cryptoSignature := cryptoSignature
      (services.sign (badgePayload detail number zoneIds options issuedAt expiresAt)) issuedAt expiresAt }

theorem badge_created {row reply : Accreditation} {zoneIds : List Uuid} {s t : Database}
    (created : handle (.createAccreditation row zoneIds) s = .ok (reply, t)) :
    t.accreditations.rows = s.accreditations.rows ++ [row] ∧
      t.accreditationZones.rows = s.accreditationZones.rows ++
        zoneIds.map fun zoneId => ⟨row.id, zoneId⟩ := by
  have applied := handle_ok created
  simp only [Tables.apply, bind_ok, orFail_ok, require_ok, pure_ok, Prod.mk.injEq] at applied
  obtain ⟨_, _, accreditations, inserted, _, _, accreditationZones, granted, _, same⟩ := applied
  rw [← same]
  exact ⟨Table.insert_rows inserted, Table.insertAll_rows granted⟩

theorem zoneIdsOf_created {row reply : Accreditation} {zoneIds : List Uuid} {s t : Database}
    (created : handle (.createAccreditation row zoneIds) s = .ok (reply, t)) :
    t.zoneIdsOf row.id = zoneIds := by
  have applied := handle_ok created
  simp only [Tables.apply, bind_ok, orFail_ok, require_ok, pure_ok, Prod.mk.injEq] at applied
  obtain ⟨_, _, accreditations, inserted, _⟩ := applied
  have fresh : s.accreditations.find (·.id == row.id) = none :=
    Table.find_insert_fresh inserted (selects_accreditationId row.id) (by simp)
  -- No zone row can name a badge that was not there.
  have before : s.accreditationZones.rows.filter (·.accreditationId == row.id) = [] := by
    rw [List.filter_eq_nil_iff]
    intro zone stored named
    obtain ⟨badge, inside, same⟩ := List.mem_map.mp
      (s.referential.accreditationZone_accreditation (List.mem_map_of_mem (f := (·.accreditationId)) stored))
    have unnamed := Table.find_eq_none.mp fresh badge inside
    rw [same, named] at unnamed
    cases unnamed
  rw [Tables.zoneIdsOf, (badge_created created).2, List.filter_append, before, List.nil_append]
  simp [List.filter_map, Function.comp_def]

section Runs

variable {A : Type} {s : Database}

theorem attempt_run (ambient : Ambient) (step : GenerationStep) {f : Unit → Op A} :
    (ambient.attempt step >>= f).run handle s = (.error .external, s) ∨
      (ambient.attempt step >>= f).run handle s = (f ()).run handle s := by
  unfold Ambient.attempt
  split
  · exact .inl rfl
  · exact .inr rfl

theorem issue_bind_failed {stmt : Statement} {f : stmt.Reply → Op A} {why : Failure}
    (failed : handle stmt s = .error why) : (issue stmt >>= f).run handle s = (.error why, s) := by
  rw [issue_bind, Proc.run, failed]

theorem created_reply {row reply : Accreditation} {zoneIds : List Uuid} {t : Database}
    (created : handle (.createAccreditation row zoneIds) s = .ok (reply, t)) : reply = row := by
  have applied := handle_ok created
  simp only [Tables.apply, bind_ok, orFail_ok, require_ok, pure_ok, Prod.mk.injEq] at applied
  obtain ⟨_, _, _, _, _, _, _, _, same, _⟩ := applied
  exact same.symm

theorem badge_announced (ambient : Ambient) (requestId requesterId : Uuid) (badge : Accreditation)
    (t : Database) :
    (∃ why, (do
      ambient.attempt .renderQrCode
      ambient.attempt .readZones
      ambient.attempt .renderBadgePdf
      ambient.attempt .putObjects
      publish (.accreditationGenerated badge.id requestId requesterId)
      return badge : Op Accreditation).run handle t = (.error why, t)) ∨
    (do
      ambient.attempt .renderQrCode
      ambient.attempt .readZones
      ambient.attempt .renderBadgePdf
      ambient.attempt .putObjects
      publish (.accreditationGenerated badge.id requestId requesterId)
      return badge : Op Accreditation).run handle t =
        (.ok badge, handle.after (.publish (.accreditationGenerated badge.id requestId requesterId)) t) := by
  rcases attempt_run ambient .renderQrCode (s := t) with ran | ran <;> rw [ran]
  · exact .inl ⟨_, rfl⟩
  rcases attempt_run ambient .readZones (s := t) with ran | ran <;> rw [ran]
  · exact .inl ⟨_, rfl⟩
  rcases attempt_run ambient .renderBadgePdf (s := t) with ran | ran <;> rw [ran]
  · exact .inl ⟨_, rfl⟩
  rcases attempt_run ambient .putObjects (s := t) with ran | ran <;> rw [ran]
  · exact .inl ⟨_, rfl⟩
  rw [publish_bind, Proc.run, publish_after]
  exact .inr rfl

variable (services : Services) (ambient : Ambient) (issuedAt : Time) (requestId : Uuid)
  (zoneIds : List Uuid) (options : GenerateAccreditationOptions)

/-- A generation leaves the store alone, or the badge in it; only the last step of all announces it. -/
theorem generateAccreditation_cases (s : Database) :
    (∃ why, (generateAccreditation services ambient issuedAt requestId zoneIds options).run handle s =
      (.error why, s)) ∨
    ∃ detail number t, s.requestDetail requestId = some detail ∧
      handle (.createAccreditation
        (issuedBadge services ambient issuedAt requestId zoneIds options detail number) zoneIds) s =
        .ok (issuedBadge services ambient issuedAt requestId zoneIds options detail number, t) ∧
      ((∃ why, (generateAccreditation services ambient issuedAt requestId zoneIds options).run handle s =
          (.error why, t)) ∨
        (generateAccreditation services ambient issuedAt requestId zoneIds options).run handle s =
          (.ok (issuedBadge services ambient issuedAt requestId zoneIds options detail number),
            handle.after (.publish (.accreditationGenerated ambient.freshId requestId
              detail.request.requesterId)) t)) := by
  unfold generateAccreditation
  rcases attempt_run ambient .readRequest (s := s) with ran | ran <;> rw [ran]
  · exact .inl ⟨_, rfl⟩
  rw [Proc.query_bind, Proc.run]
  cases joined : s.requestDetail requestId with
  | none => exact .inl ⟨_, rfl⟩
  | some detail =>
      rw [orThrow_some_bind]
      dsimp only
      rcases attempt_run ambient .lookUpNumber (s := s) with ran | ran <;> rw [ran]
      · exact .inl ⟨_, rfl⟩
      obtain ⟨r, ran, _⟩ := generateUnique_run ambient s "ACC"
        (fun db number => (db.accreditations.find (·.number == number)).isSome)
        badgeNumberGenerationFailed 5 0
      rw [generateBadgeNumber, Proc.run_bind, ran]
      cases r with
      | error why => exact .inl ⟨_, rfl⟩
      | ok number =>
          dsimp only
          rcases attempt_run ambient .sign (s := s) with ran | ran <;> rw [ran]
          · exact .inl ⟨_, rfl⟩
          rcases attempt_run ambient .createBadge (s := s) with ran | ran <;> rw [ran]
          · exact .inl ⟨_, rfl⟩
          cases created : handle (.createAccreditation
              (issuedBadge services ambient issuedAt requestId zoneIds options detail number) zoneIds) s with
          | error why => exact .inl ⟨why, issue_bind_failed created⟩
          | ok result =>
              obtain ⟨reply, t⟩ := result
              obtain rfl := created_reply created
              refine .inr ⟨detail, number, t, rfl, created, ?_⟩
              exact (badge_announced ambient requestId detail.request.requesterId _ t).imp
                (Exists.imp fun _ failed => (issue_bind_run created).trans failed)
                (issue_bind_run created).trans

end Runs

end AccreditationBackend
