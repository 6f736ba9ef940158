import SuffixLint.FileSystem.Disk

namespace SuffixLint

/-- Whether paths denote the places of a sort, all of them and nothing else. -/
structure Disk.Denotes (disk : Disk) (paths : List Path) (places : List Text → Prop) : Prop where
  located : ∀ path ∈ paths, ∃ place, disk.locate path = .ok place ∧ places place
  reached : ∀ place, places place → ∃ path ∈ paths, disk.locate path = .ok place

namespace Disk.Denotes

variable {disk : Disk} {paths others : List Path} {places targets : List Text → Prop}

theorem congr (h : disk.Denotes paths places) (hiff : ∀ place, places place ↔ targets place) :
    disk.Denotes paths targets :=
  (funext fun place => propext (hiff place) : places = targets) ▸ h

theorem of_mem_iff (h : disk.Denotes paths places) (hmem : ∀ path, path ∈ others ↔ path ∈ paths) :
    disk.Denotes others places where
  located := fun path hpath => h.located path ((hmem path).1 hpath)
  reached := fun place hplace =>
    let ⟨path, hpath, hlocate⟩ := h.reached place hplace
    ⟨path, (hmem path).2 hpath, hlocate⟩

theorem nil (h : ∀ place, ¬ places place) : disk.Denotes [] places where
  located := fun _ hpath => absurd hpath List.not_mem_nil
  reached := fun place hplace => absurd hplace (h place)

theorem singleton {path : Path} {place : List Text} (h : disk.locate path = .ok place) :
    disk.Denotes [path] (· = place) where
  located := by
    intro other hother
    rw [List.mem_singleton.1 hother]
    exact ⟨place, h, rfl⟩
  reached := by
    rintro _ rfl
    exact ⟨path, List.mem_cons_self, h⟩

theorem append (h : disk.Denotes paths places) (h' : disk.Denotes others targets) :
    disk.Denotes (paths ++ others) fun place => places place ∨ targets place where
  located := by
    intro path hpath
    rcases List.mem_append.1 hpath with hpath | hpath
    · obtain ⟨place, hlocate, hplace⟩ := h.located path hpath
      exact ⟨place, hlocate, .inl hplace⟩
    · obtain ⟨place, hlocate, hplace⟩ := h'.located path hpath
      exact ⟨place, hlocate, .inr hplace⟩
  reached := by
    rintro place (hplace | hplace)
    · obtain ⟨path, hpath, hlocate⟩ := h.reached place hplace
      exact ⟨path, List.mem_append_left _ hpath, hlocate⟩
    · obtain ⟨path, hpath, hlocate⟩ := h'.reached place hplace
      exact ⟨path, List.mem_append_right _ hpath, hlocate⟩

theorem map {names : List Text} {pathOf : Text → Path} {place : List Text}
    (hpath : ∀ name ∈ names, disk.locate (pathOf name) = disk.walk place [name])
    (hfound : ∀ name ∈ names, ∃ target, disk.walk place [name] = .ok target) :
    disk.Denotes (names.map pathOf)
      fun target => ∃ name ∈ names, disk.walk place [name] = .ok target where
  located := by
    intro path hmem
    obtain ⟨name, hname, rfl⟩ := List.mem_map.1 hmem
    obtain ⟨target, htarget⟩ := hfound name hname
    exact ⟨target, (hpath name hname).trans htarget, name, hname, htarget⟩
  reached := by
    rintro target ⟨name, hname, htarget⟩
    exact ⟨_, List.mem_map_of_mem hname, (hpath name hname).trans htarget⟩

theorem flatMap {next : Path → List Path} {onward : List Text → List Text → Prop}
    (h : disk.Denotes paths places)
    (hnext : ∀ path ∈ paths, ∀ place, disk.locate path = .ok place →
      disk.Denotes (next path) (onward place)) :
    disk.Denotes (paths.flatMap next)
      fun target => ∃ place, places place ∧ onward place target where
  located := by
    intro found hfound
    obtain ⟨path, hpath, hfound⟩ := List.mem_flatMap.1 hfound
    obtain ⟨place, hlocate, hplace⟩ := h.located path hpath
    obtain ⟨target, htarget, honward⟩ := (hnext path hpath place hlocate).located found hfound
    exact ⟨target, htarget, place, hplace, honward⟩
  reached := by
    rintro target ⟨place, hplace, honward⟩
    obtain ⟨path, hpath, hlocate⟩ := h.reached place hplace
    obtain ⟨found, hfound, htarget⟩ := (hnext path hpath place hlocate).reached target honward
    exact ⟨found, List.mem_flatMap.2 ⟨path, hpath, hfound⟩, htarget⟩

end Disk.Denotes

end SuffixLint
