import EidolonData.Library.Links
import EidolonData.Sdk
import EidolonData.Schema.Database
import EidolonData.Services.Persona

/-!
# The chapters of the Companions

The abstract model of a persona's history: the stored genomes, and what each
Companion's row says of its persona.  `ChapterStep` is all that a command can
do to it, and `Chapters.Sound` what every command preserves: a genome comes
from one of the same Companion, never from itself, and one that is marked as
restored has the content of the genome it names.
-/

namespace EidolonData

open Relational

section Contents

variable {genome other : Genome} {field : String}

theorem Genome.get?_content (outside : field ≠ "provenance") :
    JsonDict.get? genome.content field = JsonDict.get? genome field := by
  induction genome with
  | nil => rfl
  | cons head rest induction =>
      obtain ⟨name, value⟩ := head
      by_cases marking : name = "provenance"
      · have skipped : Genome.content ((name, value) :: rest) = Genome.content rest :=
          List.filter_cons_of_neg (by simp [marking])
        rw [skipped, induction, JsonDict.get?, if_neg]
        rw [marking]
        exact Ne.symm outside
      · have kept : Genome.content ((name, value) :: rest) =
            (name, value) :: Genome.content rest :=
          List.filter_cons_of_pos (by simp [marking])
        rw [kept, JsonDict.get?, JsonDict.get?, induction]

theorem Genome.content_set_provenance (genome : Genome) (value : Json) :
    Genome.content (JsonDict.set genome "provenance" value) = genome.content := by
  induction genome with
  | nil => rfl
  | cons head rest induction =>
      obtain ⟨name, old⟩ := head
      by_cases marking : name = "provenance"
      · simp only [JsonDict.set, if_pos marking]
        simp [Genome.content, marking]
      · simp only [JsonDict.set, if_neg marking]
        have kept : ∀ tail : JsonDict, Genome.content ((name, old) :: tail) =
            (name, old) :: Genome.content tail :=
          fun tail => List.filter_cons_of_pos (by simp [marking])
        rw [kept, kept, induction]

theorem Genome.content_withProvenance (genome : Genome) (source baseGenomeId : String) :
    (genome.withProvenance source baseGenomeId).content = genome.content := by
  rw [Genome.withProvenance, Genome.assign, Genome.content_set_provenance, Genome.assign,
    Genome.content_set_provenance]

theorem Genome.name_of_content (same : genome.content = other.content) :
    genome.name = other.name := by
  have part := congrArg (fun document => JsonDict.get? document "constitution") same
  simp only [Genome.get?_content (show "constitution" ≠ "provenance" by decide)] at part
  rw [Genome.name, Genome.name, part]

@[simp] theorem Genome.name_withName (name : String) : (genome.withName name).name = some name := by
  simp [Genome.name, Genome.withName, Genome.assign, JsonDict.get?_set, Json.asDict?,
    Json.asString?]

end Contents

/-- What a Companion's row says of its persona. -/
structure Persona where
  displayName : String
  currentGenomeId : Option String
  deriving DecidableEq, Repr

def CompanionRow.persona (companion : CompanionRow) : Persona :=
  { displayName := companion.displayName
    currentGenomeId := companion.currentGenomeId }

/-- The stored genomes, and the personas by the ids of their Companions. -/
structure Chapters where
  genomes : Table PersonaGenomeRow
  personas : String → Option Persona

def Workspace.chapters (w : Workspace) : Chapters :=
  { genomes := w.personaGenomes
    personas := fun companionId => (w.companions.get? companionId).map CompanionRow.persona }

def Chapters.rewrite (c : Chapters) (companionId : String) (change : Persona → Persona) :
    Chapters :=
  { c with
    personas := fun other =>
      if other = companionId then (c.personas other).map change else c.personas other }

theorem Chapters.rewrite_id (c : Chapters) (companionId : String) :
    c.rewrite companionId id = c := by
  simp [Chapters.rewrite]

theorem Chapters.rewrite_update (genomes : Table PersonaGenomeRow)
    (personas : String → Option Persona) (companionId : String) (persona : Persona)
    (change : Persona → Persona) :
    ({ genomes := genomes
       personas := Function.update personas companionId (some persona) } : Chapters).rewrite
        companionId change =
      { genomes := genomes
        personas := Function.update personas companionId (some (change persona)) } := by
  simp only [Chapters.rewrite, Chapters.mk.injEq, true_and]
  funext other
  by_cases same : other = companionId
  · rw [if_pos same, same, Function.update_self, Function.update_self]
    rfl
  · rw [if_neg same, Function.update_of_ne same, Function.update_of_ne same]

theorem Workspace.chapters_modify (w : Workspace) (companionId : String)
    {change : CompanionRow → CompanionRow} {keeps : ∀ row, key (change row) = key row}
    (view : Persona → Persona) (seen : ∀ row, (change row).persona = view row.persona) :
    ({ w with companions := w.companions.modify companionId change keeps } : Workspace).chapters =
      w.chapters.rewrite companionId view := by
  simp only [Workspace.chapters, Chapters.rewrite, Table.get?_modify, Chapters.mk.injEq, true_and]
  funext other
  split
  · rw [Option.map_map, Option.map_map]
    exact congrArg (fun view => (w.companions.get? other).map view) (funext seen)
  · rfl

theorem Workspace.personas_of_stores (w w' : Workspace) {row : CompanionRow}
    (stores : Table.Stores w.companions w'.companions row) :
    w'.chapters.personas =
      Function.update w.chapters.personas row.companionId (some row.persona) := by
  funext other
  by_cases same : other = row.companionId
  · rw [same, Function.update_self]
    simp only [Workspace.chapters]
    rw [show w'.companions.get? row.companionId = some row from stores.self]
    rfl
  · rw [Function.update_of_ne same]
    simp only [Workspace.chapters]
    rw [stores.other same]

theorem Workspace.chapters_insertCompanion (w : Workspace) {row : CompanionRow}
    (fresh : w.companions.get? row.companionId = none) :
    ({ w with companions := w.companions.insert row } : Workspace).chapters =
      { genomes := w.personaGenomes
        personas := Function.update w.chapters.personas row.companionId (some row.persona) } := by
  refine congrArg (Chapters.mk _) ?_
  apply Workspace.personas_of_stores
  exact Table.stores_insert fresh

/-- The genome another one comes from. -/
def Chapters.base (c : Chapters) (genomeId : String) : Option String :=
  (c.genomes.get? genomeId).bind (fun genome => genome.baseGenomeId)

def PersonaGenomeRow.restoredFrom (genome : PersonaGenomeRow) : Option Json :=
  genome.sourceJson.get? "restored_from"

/-- A genome reads as another one does under a name, its provenance apart. -/
def PersonaGenomeRow.Retells (genome target : PersonaGenomeRow) (sdk : Sdk) (name : String) :
    Prop :=
  ∃ told again, sdk.normalizePersonaGenome target.genomeJson = .ok told ∧
    sdk.normalizePersonaGenome genome.genomeJson = .ok again ∧
    again.content = (told.withName name).content

/-- A marked genome names one of its own Companion and retells it. -/
structure PersonaGenomeRow.Restores (genome target : PersonaGenomeRow) (sdk : Sdk) (name : String) :
    Prop where
  own : target.companionId = genome.companionId
  mark : genome.restoredFrom = some (.str target.genomeId)
  retells : genome.Retells target sdk name

/-- Every genome belongs to a stored Companion, and every pointer names a
stored genome. -/
structure Chapters.Housed (c : Chapters) : Prop where
  genome : ∀ {genomeId genome}, c.genomes.get? genomeId = some genome →
    c.personas genome.companionId ≠ none
  pointer : ∀ {companionId persona genomeId}, c.personas companionId = some persona →
    persona.currentGenomeId = some genomeId → c.genomes.get? genomeId ≠ none

/-- Every Companion is at a committed genome of its own. -/
def Chapters.AllCurrent (c : Chapters) : Prop :=
  ∀ {companionId persona}, c.personas companionId = some persona →
    ∃ genome, c.genomes.get? genome.genomeId = some genome ∧
      persona.currentGenomeId = some genome.genomeId ∧ genome.companionId = companionId ∧
      genome.status = .committed

/-- The Companion of a committed genome moves to it. -/
def Chapters.Follows (c c' : Chapters) (genome : PersonaGenomeRow) : Prop :=
  (genome.status ≠ .committed ∧ c'.personas = c.personas) ∨
  (genome.status = .committed ∧ ∃ persona, c.personas genome.companionId = some persona ∧
    c'.personas = Function.update c.personas genome.companionId
      (some { persona with currentGenomeId := some genome.genomeId }))

/-- What one command can do to the chapters.  The marks of the restored genomes
are what the service has written only where they can be `trusted`: where no
caller writes one of its own and the SDK reads back what it has written. -/
inductive ChapterStep (sdk : Sdk) (trusted : Prop) (c c' : Chapters) : Prop where
  | kept (same : c' = c)
  | provisioned (persona : Persona) (genome : PersonaGenomeRow)
      (newcomer : c.personas genome.companionId = none)
      (fresh : c.genomes.get? genome.genomeId = none)
      (first : genome.baseGenomeId = none) (committed : genome.status = .committed)
      (points : persona.currentGenomeId = some genome.genomeId)
      (genomes : Table.Stores c.genomes c'.genomes genome)
      (personas : c'.personas =
        Function.update c.personas genome.companionId (some persona))
  | added (genome : PersonaGenomeRow) (fresh : c.genomes.get? genome.genomeId = none)
      (based : ∀ base, genome.baseGenomeId = some base →
        ∃ parent, c.genomes.get? base = some parent ∧ parent.companionId = genome.companionId)
      (unmarked : trusted → genome.restoredFrom = none)
      (genomes : Table.Stores c.genomes c'.genomes genome)
      (follows : c.Follows c' genome)
  | decided (old new : PersonaGenomeRow) (found : c.genomes.get? old.genomeId = some old)
      (proposed : old.status = .proposed)
      (rewritten : new =
        { old with
          status := new.status
          changeSummary := new.changeSummary
          appliedEventId := new.appliedEventId })
      (genomes : Table.Stores c.genomes c'.genomes new)
      (follows : c.Follows c' new)
  | appended (persona : Persona) (current genome : PersonaGenomeRow) (name : String)
      (found : c.personas genome.companionId = some persona)
      (points : persona.currentGenomeId = some current.genomeId)
      (stored : c.genomes.get? current.genomeId = some current)
      (own : current.companionId = genome.companionId)
      (fresh : c.genomes.get? genome.genomeId = none)
      (base : genome.baseGenomeId = some current.genomeId)
      (committed : genome.status = .committed)
      (marked : trusted → genome.restoredFrom = none ∨
        ∃ target, c.genomes.get? target.genomeId = some target ∧ genome.Restores target sdk name)
      (genomes : Table.Stores c.genomes c'.genomes genome)
      (personas : c'.personas = Function.update c.personas genome.companionId
        (some { displayName := name, currentGenomeId := some genome.genomeId }))
  | renamed (persona : Persona) (current : PersonaGenomeRow) (name : String) (content : Genome)
      (found : c.personas current.companionId = some persona)
      (points : persona.currentGenomeId = some current.genomeId)
      (stored : c.genomes.get? current.genomeId = some current)
      (reads : sdk.normalizePersonaGenome current.genomeJson = .ok content)
      (named : content.name = some name)
      (genomes : c'.genomes = c.genomes)
      (personas : c'.personas = Function.update c.personas current.companionId
        (some { persona with displayName := name }))
  | removed
      (genome : ∀ {genomeId new}, c'.genomes.get? genomeId = some new →
        ∃ old, c.genomes.get? genomeId = some old ∧
          new = { old with baseGenomeId := old.baseGenomeId.filter c'.genomes.has })
      (stays : ∀ {genomeId old}, c.genomes.get? genomeId = some old →
        c'.personas old.companionId ≠ none → c'.genomes.has genomeId = true)
      (persona : ∀ {companionId new}, c'.personas companionId = some new →
        ∃ old, c.personas companionId = some old ∧
          new = { old with currentGenomeId := old.currentGenomeId.filter c'.genomes.has })

/-- The links and the marks of the stored genomes are what they seem. -/
structure Chapters.Sound (sdk : Sdk) (trusted : Prop) (c : Chapters) : Prop where
  based : ∀ {genomeId genome base}, c.genomes.get? genomeId = some genome →
    genome.baseGenomeId = some base →
    ∃ parent, c.genomes.get? base = some parent ∧ parent.companionId = genome.companionId
  ranked : Ranked c.base
  marked : trusted → ∀ {genomeId genome}, c.genomes.get? genomeId = some genome →
    genome.restoredFrom ≠ none → genome.status = .committed
  restored : trusted → ∀ {genomeId genome}, c.genomes.get? genomeId = some genome →
    genome.restoredFrom ≠ none → genome.baseGenomeId ≠ none →
    ∃ target name, c.genomes.get? target.genomeId = some target ∧ genome.Restores target sdk name
  /-- A current genome without a base may carry any mark, but it is alone. -/
  alone : trusted → ∀ {companionId persona genome}, c.personas companionId = some persona →
    persona.currentGenomeId = some genome.genomeId →
    c.genomes.get? genome.genomeId = some genome →
    genome.restoredFrom ≠ none → genome.baseGenomeId = none →
    ∀ {otherId other}, c.genomes.get? otherId = some other → other.companionId = companionId →
      other.status = .committed → otherId = genome.genomeId
  /-- A current genome that was restored has its Companion's name. -/
  named : trusted → ∀ {companionId persona genome}, c.personas companionId = some persona →
    persona.currentGenomeId = some genome.genomeId →
    c.genomes.get? genome.genomeId = some genome →
    genome.restoredFrom ≠ none → genome.baseGenomeId ≠ none →
    ∃ content, sdk.normalizePersonaGenome genome.genomeJson = .ok content ∧
      content.name = some persona.displayName

end EidolonData
