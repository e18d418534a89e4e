/-
# Beatsheet.Proofs.Continuity.History — histories of a script

A script has versions, and of each the extraction takes over identifiers from that of the version
before. A snippet that can be told from all others of its version by its keys, in every version,
keeps its identifier through all of them (`History.same_id`), whatever else is changed.
-/
import Beatsheet.Proofs.Continuity.Reuse

set_option autoImplicit false

namespace Beatsheet

/-- Extractions of versions of one script, each with the forest of the version before it; the first
has the forest `previous`, if there is one. The source of identifiers may be another for each. -/
inductive History (options : Options) (path : Text) :
    (previous : Option (List (Scene Text))) → List Text → List Extraction → Prop
  | nil (previous : Option (List (Scene Text))) : History options path previous [] []
  | cons {σ : Type} (source : IdSource σ) (state : σ) (previous : Option (List (Scene Text)))
      (text : Text) {texts : List Text} {versions : List Extraction}
      (rest : History options path
        (some (extract source state options previous path text).extraction.scenes) texts versions) :
      History options path previous (text :: texts)
        ((extract source state options previous path text).extraction :: versions)

variable {options : Options} {path : Text}

theorem history_extractVersions {σ : Type} (source : IdSource σ) (options : Options) (path : Text)
    (texts : List Text) (state : σ) (previous : Option (List (Scene Text))) :
    History options path previous texts
      (extractVersions source options path state previous texts) := by
  induction texts generalizing state previous with
  | nil => exact .nil previous
  | cons text rest ih => exact .cons source state previous text (ih _ _)

/-- One snippet of the forest, and no other, has these keys. -/
def Lone (keys : Finset Text) (scenes : List (Scene Text)) (s : Snippet Text) : Prop :=
  (scenes.flatMap (·.snippets)).filter (·.keys = keys) = [s]

theorem Lone.mem {keys : Finset Text} {scenes : List (Scene Text)} {s : Snippet Text}
    (lone : Lone keys scenes s) : s ∈ scenes.flatMap (·.snippets) ∧ s.keys = keys := by
  have among : s ∈ (scenes.flatMap (·.snippets)).filter (·.keys = keys) := by
    rw [lone]
    exact List.mem_singleton_self s
  rw [List.mem_filter, decide_eq_true_iff] at among
  exact among

theorem Lone.eq {keys : Finset Text} {scenes : List (Scene Text)} {s t : Snippet Text}
    (lone : Lone keys scenes s) (member : t ∈ scenes.flatMap (·.snippets)) (same : t.keys = keys) :
    t = s := by
  have among : t ∈ (scenes.flatMap (·.snippets)).filter (·.keys = keys) := by
    exact List.mem_filter.mpr ⟨member, decide_eq_true same⟩
  rw [lone] at among
  exact List.mem_singleton.mp among

/-- What one version hands on to the next. -/
theorem id_of_lone (valid : options.validate = .ok options) {σ : Type} (source : IdSource σ)
    (state : σ) {previous : List (Scene Text)} {lines : List SourceLine} {keys : Finset Text}
    (nonempty : keys.Nonempty) {p s : Snippet Text} (before : Lone keys previous p)
    (now : s ∈ (extractLines source state options (some previous) lines).extraction.snippets)
    (same : s.keys = keys) : s.id = p.id := by
  subst same
  exact id_of_reused now
    (Snippet.reused?_of_lone (Options.minOverlap_le_one valid) nonempty before)

namespace History

/-- Once a snippet has an identifier, the later versions keep it. -/
theorem id_eq (valid : options.validate = .ok options) {keys : Finset Text}
    (nonempty : keys.Nonempty) {previous : Option (List (Scene Text))} {texts : List Text}
    {versions : List Extraction} (history : History options path previous texts versions)
    (lone : ∀ e ∈ versions, ∃ s, Lone keys e.scenes s) {scenes : List (Scene Text)}
    (earlier : previous = some scenes) {p : Snippet Text} (before : Lone keys scenes p) :
    ∀ e ∈ versions, ∀ s ∈ e.snippets, s.keys = keys → s.id = p.id := by
  induction history generalizing scenes p with
  | nil => simp
  | cons source state previous text rest ih =>
      subst earlier
      have here : ∀ s ∈ (extract source state options (some scenes) path text).extraction.snippets,
          s.keys = keys → s.id = p.id :=
        fun s now same => id_of_lone valid source state nonempty before now same
      obtain ⟨next, loneHere⟩ := lone _ List.mem_cons_self
      have member := loneHere.mem
      have later := ih (fun e member => lone e (List.mem_cons_of_mem _ member)) rfl loneHere
      intro e inVersions
      rcases List.mem_cons.mp inVersions with rfl | behind
      · exact here
      · intro s now same
        exact (later e behind s now same).trans (here next member.1 member.2)

/-- **A snippet that is the only one with its keys, in every version of a script, keeps its
identifier through all of them.** -/
theorem same_id (valid : options.validate = .ok options) {texts : List Text}
    {versions : List Extraction} (history : History options path none texts versions)
    {keys : Finset Text} (nonempty : keys.Nonempty)
    (lone : ∀ e ∈ versions, ∃ s, Lone keys e.scenes s) :
    ∃ id, ∀ e ∈ versions, ∀ s ∈ e.snippets, s.keys = keys → s.id = id := by
  cases history with
  | nil => exact ⟨[], by simp⟩
  | cons source state _ text rest =>
      obtain ⟨first, loneFirst⟩ := lone _ List.mem_cons_self
      have later := rest.id_eq valid nonempty
        (fun e member => lone e (List.mem_cons_of_mem _ member)) rfl loneFirst
      refine ⟨first.id, fun e inVersions => ?_⟩
      rcases List.mem_cons.mp inVersions with rfl | behind
      · intro s now same
        rw [loneFirst.eq now same]
      · exact later e behind

/-- A snippet that moves behind a new scene, and whose beat is then spelled in another letter case
beside a snippet that has its beat and one more. -/
theorem same_id_of_moved :
    let versions := extractVersions IdSource.numbered {} "a.ink".toList 0 none
      ["#dink\n== hall\nANNA: Hi. #id:x\n".toList,
        "#dink\n== yard\nBERT: Yo. #id:y\n== hall\nANNA: Hi. #id:x\n".toList,
        "#dink\n== yard\nBERT: Yo. #id:x\nBERT: Oh. #id:z\n== hall\nANNA: Hi. #id:X\n".toList]
    ∃ id, ∀ e ∈ versions, ∀ s ∈ e.snippets, s.keys = {"x".toList} → s.id = id := by
  intro versions
  have one : ∀ e ∈ versions, (e.snippets.filter (·.keys = {"x".toList})).length = 1 := by
    decide +kernel
  exact same_id rfl (history_extractVersions IdSource.numbered {} "a.ink".toList _ 0 none)
    (Finset.singleton_nonempty _) fun e member => List.length_eq_one_iff.mp (one e member)

end History

end Beatsheet
