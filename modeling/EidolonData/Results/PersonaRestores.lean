import EidolonData.Results.DefaultPointer
import EidolonData.Effects.ChapterCommands
import EidolonData.Invariants.Lineage

/-!
# Restoring a persona

A restore puts the content of the target under the Companion's name, as a new
chapter or as the current one, and touches nothing else of the persona.  The
same restore again answers the same chapter and writes nothing.
-/

namespace EidolonData

open Relational

structure PersonaRestored (sdk : Sdk) (db db' : Database) (companionId : String)
    (target result : PersonaGenomeRow) : Prop where
  stored : db.tables.workspace.personaGenomes.get? target.genomeId = some target
  own : target.companionId = companionId
  chapter : db'.tables.workspace.personaGenomes.get? result.genomeId = some result
  chapterOwn : result.companionId = companionId
  committed : result.status = .committed
  /-- The Companion is at the chapter, under its name and preferences. -/
  companion : ∃ old new, db.tables.workspace.companions.get? companionId = some old ∧
    db'.tables.workspace.companions.get? companionId = some new ∧
    new.currentGenomeId = some result.genomeId ∧ new.displayName = old.displayName ∧
    new.runtimeConfigJson = old.runtimeConfigJson ∧
    (result = target ∨ result.Retells target sdk old.displayName)
  kept : ∀ {genomeId genome},
    db.tables.workspace.personaGenomes.get? genomeId = some genome →
    db'.tables.workspace.personaGenomes.get? genomeId = some genome

section Restored

variable {sdk : Sdk} {companion : CompanionRow} {current target result : PersonaGenomeRow}

theorem Tables.persona_of_get? {t : Tables}
    (found : t.workspace.companions.get? companion.companionId = some companion) :
    t.chapters.personas companion.companionId = some companion.persona := by
  show (t.workspace.companions.get? companion.companionId).map CompanionRow.persona = _
  rw [found]
  rfl

theorem Chapters.Sound.retells {t : Tables} (sound : t.chapters.Sound sdk True)
    (found : t.workspace.companions.get? companion.companionId = some companion)
    (read : CurrentRead t companion current)
    (stored : t.workspace.personaGenomes.get? target.genomeId = some target)
    (own : target.companionId = companion.companionId)
    (mark : current.restoredFrom = some (.str target.genomeId))
    (committed : current.baseGenomeId = none → target.status = .committed) :
    current = target ∨ current.Retells target sdk companion.displayName := by
  have known := Tables.persona_of_get? found
  have marked : current.restoredFrom ≠ none := by
    rw [mark]
    exact Option.some_ne_none _
  by_cases base : current.baseGenomeId = none
  · left
    have same : target.genomeId = current.genomeId :=
      sound.alone trivial known read.points read.stored marked base stored own (committed base)
    have currentStored := read.stored
    rw [← same, stored, Option.some.injEq] at currentStored
    exact currentStored.symm
  · right
    obtain ⟨other, name, otherStored, restores⟩ :=
      sound.restored trivial read.stored marked base
    obtain ⟨content, reads, named⟩ := sound.named trivial known read.points read.stored marked base
    have sameId : other.genomeId = target.genomeId := by
      have marks := restores.mark
      rw [mark, Option.some.injEq, Json.str.injEq] at marks
      exact marks.symm
    have same : target = other := by
      have otherFound : t.workspace.personaGenomes.get? other.genomeId = some other := otherStored
      rw [sameId, stored, Option.some.injEq] at otherFound
      exact otherFound
    subst same
    obtain ⟨told, again, toldRead, againRead, retold⟩ := restores.retells
    have equal : again = content := by
      rw [againRead, Except.ok.injEq] at reads
      exact reads
    have sameName : some name = some companion.displayName := by
      have renamed : (told.withName name).name = some name := Genome.name_withName name
      rw [← renamed, ← Genome.name_of_content retold, equal]
      exact named
    cases sameName
    exact ⟨told, again, toldRead, againRead, retold⟩

theorem RestoreEffect.restored {db db' : Database}
    (effect : RestoreEffect sdk True db.tables db'.tables companion target result)
    (sound : db.tables.chapters.Sound sdk True)
    (committed : ∀ {current}, CurrentRead db.tables companion current →
      current.genomeId ≠ target.genomeId → current.baseGenomeId = none →
      target.status = .committed) :
    PersonaRestored sdk db db' companion.companionId target result := by
  obtain ⟨current, read, outcome⟩ := effect.outcome
  rcases outcome with ⟨unchanged, answered, settled⟩ | ⟨different, restored⟩
  · subst answered
    refine
      { stored := effect.stored
        own := effect.own
        chapter := ?_
        chapterOwn := read.own
        committed := read.committed
        companion := ⟨companion, companion, effect.found, ?_, read.points, rfl, rfl, ?_⟩
        kept := ?_ }
    · rw [unchanged]
      exact read.stored
    · rw [unchanged]
      exact effect.found
    · by_cases same : result.genomeId = target.genomeId
      · left
        have stored := read.stored
        rw [same, effect.stored, Option.some.injEq] at stored
        exact stored.symm
      · exact sound.retells effect.found read effect.stored effect.own
          (settled.resolve_left same) (committed read same)
    · intro genomeId genome stored
      rw [unchanged]
      exact stored
  · exact
      { stored := effect.stored
        own := effect.own
        chapter := restored.genomes.self
        chapterOwn := restored.own
        committed := restored.committed
        companion := ⟨companion, _, effect.found, restored.companions.self, rfl, rfl, rfl,
          Or.inr (restored.restores trivial).retells⟩
        kept := fun stored => restored.genomes.kept restored.fresh stored }

end Restored

section Settled

variable {sdk : Sdk} {t : Tables} {companion : CompanionRow}
  {current target result : PersonaGenomeRow}

structure RestoreSettled (t : Tables) (companion : CompanionRow)
    (target result : PersonaGenomeRow) : Prop where
  found : t.workspace.companions.get? companion.companionId = some companion
  read : CurrentRead t companion result
  stored : t.workspace.personaGenomes.get? target.genomeId = some target
  own : target.companionId = companion.companionId
  marked : result.genomeId = target.genomeId ∨
    result.restoredFrom = some (.str target.genomeId)

theorem RestoreEffect.settled {t' : Tables}
    (effect : RestoreEffect sdk True t t' companion target result) :
    ∃ new, new.companionId = companion.companionId ∧ new.ownerId = companion.ownerId ∧
      RestoreSettled t' new target result := by
  obtain ⟨current, read, outcome⟩ := effect.outcome
  rcases outcome with ⟨unchanged, answered, settled⟩ | ⟨different, restored⟩
  · subst unchanged answered
    exact ⟨companion, rfl, rfl,
      { found := effect.found
        read := read
        stored := effect.stored
        own := effect.own
        marked := settled }⟩
  · refine
      ⟨{ companion with
          currentGenomeId := some result.genomeId
          revision := companion.revision + 1 }, rfl, rfl, ?_⟩
    exact
      { found := restored.companions.self
        read :=
          { points := rfl
            stored := restored.genomes.self
            own := restored.own
            committed := restored.committed }
        stored := restored.genomes.kept restored.fresh effect.stored
        own := effect.own
        marked := Or.inr (restored.restores trivial).mark }

theorem RestoreSettled.currentForEdit (settled : RestoreSettled t companion target result) :
    (currentForEdit companion).run t = .ok (result, t) := by
  have kept : (some result).filter (fun genome => genome.status = .committed) = some result := by
    rw [Option.filter_some, if_pos (decide_eq_true settled.read.committed)]
  simp only [EidolonData.currentForEdit, getGenome, settled.read.points, Option.getD_some,
    Tx.run_read_bind, settled.read.stored, kept]
  rfl

theorem RestoreSettled.appendRestored (settled : RestoreSettled t companion target result)
    (env : Env) (summary : String) :
    (appendRestored sdk env companion result target summary).run t = .ok (result, t) := by
  have written : result.genomeId = target.genomeId ∨
      result.sourceJson.get? "restored_from" = some (.str target.genomeId) := settled.marked
  rw [EidolonData.appendRestored, if_pos written]
  rfl

theorem RestoreSettled.restoreChapter (settled : RestoreSettled t companion target result)
    (committed : target.status = .committed) {ownerId : Option String}
    (owned : ∀ owner, ownerId = some owner → companion.ownerId = owner) (env : Env)
    (summary : String) :
    (restoreChapter sdk env companion.companionId target.genomeId summary ownerId).run t =
      .ok (result, t) := by
  have companionRead : (companionForEdit companion.companionId).run t = .ok (companion, t) := by
    simp [companionForEdit, getCompanion, settled.found, Tx.require]
  have allowed : ¬ (ownerId.any (fun owner => companion.ownerId ≠ owner)) = true := by
    cases ownerId with
    | none => simp
    | some owner => simp [owned owner rfl]
  have accepted : restorable companion.companionId (some target) = .ok target := by
    simp [restorable, Option.filter_some, settled.own, committed]
  rw [EidolonData.restoreChapter, Tx.run_bind_ok companionRead, Tx.run_refuseIf_bind,
    if_neg allowed, Tx.run_bind_ok settled.currentForEdit]
  simp only [getGenome, Tx.run_read_bind, settled.stored, accepted, check, Tx.lift]
  exact settled.appendRestored env summary

theorem RestoreEffect.originates {t' : Tables} {origin : PersonaGenomeRow}
    (effect : RestoreEffect sdk True t t' companion origin result)
    (read : CurrentRead t companion current) (notEmpty : current.genomeId ≠ "")
    (originates : t.chapters.OriginatesIn current origin) :
    t'.chapters.OriginatesIn result origin := by
  obtain ⟨other, otherRead, outcome⟩ := effect.outcome
  have same : other = current := otherRead.unique read
  subst same
  rcases outcome with ⟨unchanged, answered, -⟩ | ⟨-, restored⟩
  · rw [unchanged, answered]
    exact originates
  · have kept : ∀ {genomeId genome}, t.chapters.genomes.get? genomeId = some genome →
        t'.chapters.genomes.get? genomeId = some genome :=
      fun stored => restored.genomes.kept restored.fresh stored
    have current' : t'.chapters.OriginatesIn other origin := by
      refine
        { stored := kept originates.stored
          own := originates.own
          path := ?_
          first := ?_ }
      · refine Relation.ReflTransGen.mono ?_ _ _ originates.path
        intro child above link
        obtain ⟨based, different⟩ := Chapters.onward_iff.mp link
        obtain ⟨genome, stored, named⟩ := Chapters.linked_iff.mp based
        exact Chapters.onward_iff.mpr
          ⟨Chapters.linked_iff.mpr ⟨genome, kept stored, named⟩, different⟩
      · have first := originates.first
        rw [Root, Chapters.onward_of_stored originates.stored] at first
        exact (Chapters.onward_of_stored (kept originates.stored)).trans first
    refine current'.above (otherRead.own.trans restored.own.symm) ?_
    apply Chapters.onward_iff.mpr
    exact ⟨Chapters.linked_iff.mpr ⟨result, restored.genomes.self, restored.base⟩, notEmpty⟩

theorem RestoreSettled.resetToOrigin (settled : RestoreSettled t companion target result)
    (notEmpty : result.genomeId ≠ "") (sound : t.chapters.Sound sdk True)
    (originates : t.chapters.OriginatesIn result target) (env : Env) :
    (resetToOrigin sdk env companion.ownerId companion.companionId).run t = .ok (result, t) := by
  have companionRead : (personaCompanion companion.ownerId companion.companionId).run t =
      .ok (companion, t) := by
    simp [personaCompanion, getCompanion, settled.found, Option.filter_some, Tx.require]
  have kept : (some result).filter (fun genome => genome.genomeId ≠ "") = some result := by
    rw [Option.filter_some, if_pos (decide_eq_true notEmpty)]
  have origin : originOf t.workspace.personaGenomes companion.companionId
      (t.workspace.personaGenomes.rows.length + 1) [] result = target := by
    rw [← settled.read.own]
    exact (originOf_originates sound settled.read.stored).unique originates
  rw [EidolonData.resetToOrigin, Tx.run_bind_ok companionRead]
  simp only [getGenome, settled.read.points, Option.getD_some, Tx.run_read_bind,
    settled.read.stored, kept, Tx.run_require_some, origin]
  rw [Tx.run_bind_ok settled.currentForEdit]
  exact settled.appendRestored env _

end Settled

/-- A rollback restores its target under the Companion's name, and settles. -/
theorem restore_retells (sdk : Sdk) (stable : sdk.NormalizesStably) (calls : List Call)
    (unmarked : ∀ call ∈ calls, call.command.Unmarked) (env : Env)
    (companionId genomeId summary : String) (ownerId : Option String) (result : PersonaGenomeRow)
    (db' : Database)
    (restored : (replay sdk calls .empty).transact
      (restoreChapter sdk env companionId genomeId summary ownerId) = .ok (result, db')) :
    (∃ target, target.genomeId = genomeId ∧ target.status = .committed ∧
      PersonaRestored sdk (replay sdk calls .empty) db' companionId target result) ∧
    ∀ env' summary', db'.transact
      (restoreChapter sdk env' companionId genomeId summary' ownerId) = .ok (result, db') := by
  have sound : (replay sdk calls .empty).tables.chapters.Sound sdk True :=
    replay_chaptersSound (fun _ => stable) calls (fun _ => unmarked)
  have runtime : (replay sdk calls .empty).tables.workspace.RuntimeSound sdk .all :=
    runtimeSound_invariant.replay calls .empty (heeds_all sdk calls .empty) runtimeSound_empty
  have ran := Database.transact_ok_iff.mp restored
  obtain ⟨companion, target, named, owned, targetNamed, committed, effect⟩ :=
    restoreChapter_restores env (fun _ => stable) runtime.allCurrent companionId genomeId summary
      ownerId result db'.tables ran
  subst named targetNamed
  refine ⟨⟨target, rfl, committed, effect.restored sound (fun _ _ _ => committed)⟩, ?_⟩
  intro env' summary'
  obtain ⟨new, sameId, sameOwner, settled⟩ := effect.settled
  rw [← sameId]
  refine Database.transact_ok_iff.mpr (settled.restoreChapter committed ?_ env' summary')
  intro owner given
  rw [sameOwner]
  exact owned owner given

/-- An Owner with a Companion that was renamed twice. -/
def renamedCommands : List Command :=
  firstDefaultCommands ++ [.renameCompanion "c_owner" "Sunny", .renameCompanion "c_owner" "Dusk"]

def restoreEnv : Env := { uuid := fun site => .ofNat (512 + site), now := 32 }

theorem renamedCommands_unmarked : ∀ call ∈ numbered renamedCommands, call.command.Unmarked := by
  apply numbered_unmarked
  intro command member
  simp only [renamedCommands, firstDefaultCommands, List.cons_append, List.nil_append,
    List.mem_cons, List.not_mem_nil, or_false] at member
  rcases member with rfl | rfl | rfl | rfl
  · trivial
  · trivial
  · trivial
  · trivial

theorem restore_retells_renamed :
    ∃ result db', (replay .plain (numbered renamedCommands) .empty).transact
        (restoreChapter .plain restoreEnv "c_owner" "g_31000000000000000000000000000000" "back"
          (some "owner")) = .ok (result, db') ∧
      ∀ env' summary', db'.transact (restoreChapter .plain env' "c_owner"
        "g_31000000000000000000000000000000" summary' (some "owner")) = .ok (result, db') := by
  have restores : ((replay .plain (numbered renamedCommands) .empty).transact
      (restoreChapter .plain restoreEnv "c_owner" "g_31000000000000000000000000000000" "back"
        (some "owner"))).toOption.map (fun _ => ()) = some () := by
    decide +kernel
  obtain ⟨⟨result, db'⟩, transacted, -⟩ := Option.map_eq_some_iff.mp restores
  have restored := Tx.ok_of_toOption transacted
  refine ⟨result, db', restored, ?_⟩
  exact (restore_retells .plain Sdk.plain_normalizesStably (numbered renamedCommands)
    renamedCommands_unmarked restoreEnv "c_owner"
    "g_31000000000000000000000000000000" "back" (some "owner") result db' restored).2

/-- A reset restores the one origin of the current genome, and settles. -/
theorem reset_restores_origin (sdk : Sdk) (stable : sdk.NormalizesStably) (calls : List Call)
    (unmarked : ∀ call ∈ calls, call.command.Unmarked) (env : Env)
    (ownerId companionId : String) (result : PersonaGenomeRow) (db' : Database)
    (restored : (replay sdk calls .empty).transact (resetToOrigin sdk env ownerId companionId) =
      .ok (result, db')) :
    (∃ companion current origin,
      (replay sdk calls .empty).tables.workspace.companions.get? companionId = some companion ∧
      companion.currentGenomeId = some current ∧ origin.baseGenomeId.getD "" = "" ∧
      Relation.ReflTransGen (Linked (replay sdk calls .empty).tables.chapters.base) current
        origin.genomeId ∧
      PersonaRestored sdk (replay sdk calls .empty) db' companionId origin result) ∧
    ∀ env', db'.transact (resetToOrigin sdk env' ownerId companionId) = .ok (result, db') := by
  have sound : (replay sdk calls .empty).tables.chapters.Sound sdk True :=
    replay_chaptersSound (fun _ => stable) calls (fun _ => unmarked)
  have runtime : (replay sdk calls .empty).tables.workspace.RuntimeSound sdk .all :=
    runtimeSound_invariant.replay calls .empty (heeds_all sdk calls .empty) runtimeSound_empty
  have ran := Database.transact_ok_iff.mp restored
  obtain ⟨companion, current, named, owned, read, notEmpty, effect⟩ :=
    resetToOrigin_restores env (fun _ => stable) runtime.allCurrent ownerId companionId result
      db'.tables ran
  subst named owned
  have originates := originOf_originates sound read.stored
  rw [read.own] at originates
  have first := originates.first
  rw [Root, Chapters.onward_of_stored originates.stored] at first
  constructor
  · refine ⟨companion, current.genomeId, _, effect.found, read.points,
      PersonaGenomeRow.noBase first, ?_, effect.restored sound ?_⟩
    · exact Relation.ReflTransGen.mono (fun _ _ link => (Chapters.onward_iff.mp link).1) _ _
        originates.path
    · intro other otherRead different absent
      have same : other = current := otherRead.unique read
      subst same
      have self : (replay sdk calls .empty).tables.chapters.OriginatesIn other other :=
        Chapters.originatesIn_self otherRead.stored (by rw [absent]; rfl)
      exact absurd (congrArg PersonaGenomeRow.genomeId (self.unique originates)) different
  · intro env'
    obtain ⟨new, sameId, sameOwner, settled⟩ := effect.settled
    rw [← sameId, ← sameOwner]
    have sound' : db'.tables.chapters.Sound sdk True :=
      effect.step.sound sound (replay sdk calls .empty).property.workspace.housed
        db'.property.workspace.housed
    refine Database.transact_ok_iff.mpr (settled.resetToOrigin ?_ sound'
      (effect.originates read notEmpty originates) env')
    obtain ⟨other, otherRead, outcome⟩ := effect.outcome
    rcases outcome with ⟨-, answered, -⟩ | ⟨-, restored⟩
    · rw [answered, otherRead.unique read]
      exact notEmpty
    · exact restored.named

theorem reset_restores_origin_renamed :
    ∃ result db', (replay .plain (numbered renamedCommands) .empty).transact
        (resetToOrigin .plain restoreEnv "owner" "c_owner") = .ok (result, db') ∧
      ∀ env', db'.transact (resetToOrigin .plain env' "owner" "c_owner") = .ok (result, db') := by
  have resets : ((replay .plain (numbered renamedCommands) .empty).transact
      (resetToOrigin .plain restoreEnv "owner" "c_owner")).toOption.map (fun _ => ()) =
        some () := by
    decide +kernel
  obtain ⟨⟨result, db'⟩, transacted, -⟩ := Option.map_eq_some_iff.mp resets
  have restored := Tx.ok_of_toOption transacted
  refine ⟨result, db', restored, ?_⟩
  exact (reset_restores_origin .plain Sdk.plain_normalizesStably (numbered renamedCommands)
    renamedCommands_unmarked restoreEnv "owner" "c_owner" result db'
    restored).2

end EidolonData
