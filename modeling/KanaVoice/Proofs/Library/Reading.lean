import KanaVoice.Library.Catalogue
import KanaVoice.Proofs.Except
set_option autoImplicit false

/-!
# What a catalogue is read as

The usable libraries are read in ascending order of their names, so no two of them have the same
name.  None of them is loaded, and the plan for loading them is that of the options.
-/

namespace KanaVoice

/-! ## Manifests -/

namespace Manifest

/-- The names are in strictly ascending order. -/
def Ascending (m : Manifest) : Prop := m.Pairwise fun a b => a.1 < b.1

theorem mem_insert {name : String} {usable : Bool} {m : Manifest} {entry : String × Bool}
    (mem : entry ∈ m.insert name usable) : entry = (name, usable) ∨ entry ∈ m := by
  induction m with
  | nil => exact .inl (List.mem_singleton.1 mem)
  | cons head rest ih =>
    obtain ⟨other, flag⟩ := head
    rw [insert] at mem
    split at mem
    · rcases List.mem_cons.1 mem with same | tail
      · exact .inl same
      · exact .inr (List.mem_cons_of_mem _ tail)
    · split at mem
      · exact List.mem_cons.1 mem
      · rcases List.mem_cons.1 mem with same | tail
        · exact .inr (by simp [same])
        · rcases ih tail with new | old
          · exact .inl new
          · exact .inr (List.mem_cons_of_mem _ old)

theorem ascending_insert {m : Manifest} (h : m.Ascending) (name : String) (usable : Bool) :
    (m.insert name usable).Ascending := by
  induction m with
  | nil => exact List.pairwise_singleton _ _
  | cons head rest ih =>
    obtain ⟨other, flag⟩ := head
    obtain ⟨above, tail⟩ := List.pairwise_cons.1 h
    rw [insert]
    split
    case isTrue same =>
      rw [same]
      exact List.pairwise_cons.2 ⟨above, tail⟩
    case isFalse different =>
      split
      case isTrue below =>
        refine List.pairwise_cons.2 ⟨?_, h⟩
        intro entry mem
        rcases List.mem_cons.1 mem with rfl | later
        · exact below
        · exact lt_trans below (above entry later)
      case isFalse notBelow =>
        have after : other < name := lt_of_le_of_ne (not_lt.1 notBelow) (Ne.symm different)
        refine List.pairwise_cons.2 ⟨?_, ih tail⟩
        intro entry mem
        rcases mem_insert mem with rfl | old
        · exact after
        · exact above entry old

theorem ascending_ofMentions (mentions : List (String × Bool)) :
    (ofMentions mentions).Ascending := by
  unfold ofMentions
  suffices run : ∀ (l : List (String × Bool)) (m : Manifest), m.Ascending →
      Ascending (l.foldl (fun m mention => m.insert mention.1 mention.2) m) by
    exact run mentions [] .nil
  intro l
  induction l with
  | nil =>
    intro m h
    exact h
  | cons mention rest ih =>
    intro m h
    exact ih _ (ascending_insert h mention.1 mention.2)

theorem ascending_of_load {tree : FileTree} {root : Path} {m : Manifest}
    (h : load tree root = .ok m) : m.Ascending := by
  obtain ⟨text, -, decoded⟩ := except_bind_eq_ok_iff.1 h
  split at decoded
  case h_2 => cases decoded
  case h_1 found =>
    cases decoded
    obtain ⟨j, -, object⟩ := Option.bind_eq_some_iff.1 found
    unfold ofJson? at object
    split at object
    case h_2 => cases object
    case h_1 members =>
      obtain ⟨mentions, -, rfl⟩ := Option.map_eq_some_iff.1 object
      exact ascending_ofMentions mentions

/-- The usable names are in strictly ascending order too. -/
theorem pairwise_usable {m : Manifest} (h : m.Ascending) : m.usable.Pairwise (· < ·) :=
  List.pairwise_map.2 (h.sublist List.filter_sublist)

end Manifest

/-! ## Libraries -/

variable {S : Type}

/-- A library is read as its speakers and its models. -/
theorem VoiceLibrary.steps_of_read {tree : FileTree} {root : Path} {name : String}
    {l : VoiceLibrary S} (h : VoiceLibrary.read tree root name = .ok l) :
    ∃ speakers models, Speaker.loadAll tree (root.join name) = .ok speakers ∧
      ModelFiles.read tree (root.join name) = .ok models ∧
      l = { name, folder := root.join name, speakers, state := .unloaded models } := by
  unfold VoiceLibrary.read at h
  obtain ⟨speakers, areSpeakers, h⟩ := except_bind_eq_ok_iff.1 h
  obtain ⟨models, areModels, h⟩ := except_bind_eq_ok_iff.1 h
  cases h
  exact ⟨speakers, models, areSpeakers, areModels, rfl⟩

theorem VoiceLibrary.of_read {tree : FileTree} {root : Path} {name : String} {l : VoiceLibrary S}
    (h : VoiceLibrary.read tree root name = .ok l) :
    l.name = name ∧ ∃ models, l.state = .unloaded models := by
  obtain ⟨_, models, -, -, rfl⟩ := steps_of_read h
  exact ⟨rfl, models, rfl⟩

/-- Libraries that are read one after another have the names that they are read by. -/
theorem VoiceLibrary.map_name_of_read {tree : FileTree} {root : Path} {names : List String}
    {libraries : List (VoiceLibrary S)}
    (h : names.mapM (VoiceLibrary.read tree root) = .ok libraries) :
    libraries.map VoiceLibrary.name = names := by
  induction names generalizing libraries with
  | nil =>
    cases h
    rfl
  | cons name rest ih =>
    obtain ⟨l, others, isRead, areRead, rfl⟩ := mapM_cons_eq_ok_iff.1 h
    rw [List.map_cons, (of_read isRead).1, ih areRead]

theorem VoiceLibrary.isLoaded_eq_false_iff {l : VoiceLibrary S} :
    l.isLoaded = false ↔ ∃ models, l.state = .unloaded models := by
  unfold isLoaded
  cases l.state <;> simp

theorem VoiceLibrary.isLoaded_eq_true_iff {l : VoiceLibrary S} :
    l.isLoaded = true ↔ ∃ sessions, l.state = .loaded sessions := by
  unfold isLoaded
  cases l.state <;> simp

theorem decoderDevice_isGpu {devices : DeviceSet} {useGpu : Bool} {device : Device}
    (h : decoderDevice devices useGpu = .ok device) : device.isGpu = useGpu := by
  unfold decoderDevice at h
  cases useGpu with
  | false =>
    cases h
    rfl
  | true =>
    simp only [Bool.not_true, Bool.false_eq_true, if_false] at h
    split at h
    · cases h
      rfl
    · cases h

namespace Catalogue

/-- No two libraries have the same name. -/
def Distinct (c : Catalogue S) : Prop := (c.libraries.map VoiceLibrary.name).Nodup

/-- The plan is the one that the options ask for. -/
structure Follows (devices : DeviceSet) (options : CatalogueOptions) (plan : LoadPlan) : Prop where
  device : decoderDevice devices options.useGpu = .ok plan.decoderDevice
  gpu : plan.decoderDevice.isGpu = options.useGpu
  threads : plan.threads = options.threads

/-- A catalogue is read as the device, the list of libraries and the usable ones of them. -/
theorem steps_of_read {devices : DeviceSet} {tree : FileTree} {root : Path}
    {options : CatalogueOptions} {c : Catalogue S} (h : read devices tree root options = .ok c) :
    ∃ m, decoderDevice devices options.useGpu = .ok c.plan.decoderDevice ∧
      c.plan.threads = options.threads ∧ Manifest.load tree root = .ok m ∧
      m.usable.mapM (VoiceLibrary.read tree root) = .ok c.libraries := by
  unfold read at h
  obtain ⟨device, isDevice, h⟩ := except_bind_eq_ok_iff.1 h
  obtain ⟨m, isManifest, h⟩ := except_bind_eq_ok_iff.1 h
  obtain ⟨libraries, areRead, h⟩ := except_bind_eq_ok_iff.1 h
  cases h
  exact ⟨m, isDevice, rfl, isManifest, areRead⟩

/-- What is read under a root: libraries of different names, none of them loaded. -/
theorem of_read {devices : DeviceSet} {tree : FileTree} {root : Path} {options : CatalogueOptions}
    {c : Catalogue S} (h : read devices tree root options = .ok c) :
    c.Distinct ∧ (∀ l ∈ c.libraries, l.isLoaded = false) ∧ Follows devices options c.plan := by
  obtain ⟨m, isDevice, threads, isManifest, areRead⟩ := steps_of_read h
  refine ⟨?_, ?_, ⟨isDevice, decoderDevice_isGpu isDevice, threads⟩⟩
  · unfold Distinct
    rw [VoiceLibrary.map_name_of_read areRead]
    exact (Manifest.pairwise_usable (Manifest.ascending_of_load isManifest)).imp ne_of_lt
  · intro l mem
    obtain ⟨name, -, isRead⟩ := exists_of_mem_mapM areRead mem
    exact VoiceLibrary.isLoaded_eq_false_iff.2 (VoiceLibrary.of_read isRead).2

end Catalogue

end KanaVoice
