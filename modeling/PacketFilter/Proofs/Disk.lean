import PacketFilter.Disk

/-!
# Reading what was written

A file that is put at a place changes nothing at any other place, and the way to a place leads
through directories only, so the same path leads to the file as before. What was appended to a file
is therefore read behind what was there (`openSource_appendText`).
-/
namespace PacketFilter

namespace Disk

/-- The entries at other places, and after them a file. -/
theorem put_eq (disk : Disk) (place : Place) (bytes : List UInt8) :
    disk.put place bytes =
      ⟨disk.entries.filter (·.1 != place) ++ [(place, .file bytes)]⟩ := rfl

/-- Leaving out what lies at a place leaves what lies at any other. -/
theorem lookup_filter_of_ne {place other : Place} (differs : other ≠ place)
    (entries : List (Place × Entry)) :
    List.lookup other (entries.filter (·.1 != place)) = List.lookup other entries := by
  induction entries with
  | nil => rfl
  | cons known rest ih =>
    obtain ⟨name, entry⟩ := known
    by_cases here : name = place
    · have skipped : (other == name) = false := by simpa [here] using differs
      rw [List.filter_cons_of_neg (by simp [here]), List.lookup_cons, skipped]
      exact ih
    · rw [List.filter_cons_of_pos (by simp [here]), List.lookup_cons, List.lookup_cons, ih]

/-- What lies at any other place is not touched by putting a file at one. -/
theorem entry?_put_of_ne (disk : Disk) {place other : Place} (bytes : List UInt8)
    (differs : other ≠ place) : Disk.entry? (disk.put place bytes) other = disk.entry? other := by
  have notNew : List.lookup other [(place, Entry.file bytes)] = none := by
    have skipped : (other == place) = false := by simpa using differs
    rw [List.lookup_cons, skipped]
    rfl
  have elsewhere : (disk.put place bytes).entries.lookup other = disk.entries.lookup other := by
    rw [put_eq, List.lookup_append, lookup_filter_of_ne differs, notNew, Option.or_none]
  rw [ entry?, elsewhere, entry?]

/-- A file that is put at a place lies there, unless the place is a directory that is always
there. -/
theorem entry?_put (disk : Disk) {place : Place} (bytes : List UInt8)
    (free : disk.entry? place ≠ some .directory) :
    Disk.entry? (disk.put place bytes) place = some (.file bytes) := by
  have notFixed : ¬ (place.all (· = "..") || place = ["/"]) = true :=
    fun fixed => free (by rw [ entry?, if_pos fixed])
  have gone : List.lookup place (disk.entries.filter (·.1 != place)) = none := by
    refine List.lookup_eq_none_iff.2 fun known member => ?_
    have other : known.1 ≠ place := by simpa using (List.mem_filter.1 member).2
    simpa using Ne.symm other
  have last : (disk.put place bytes).entries.lookup place = some (.file bytes) := by
    rw [put_eq, List.lookup_append, gone, Option.none_or, List.lookup_cons_self]
  rw [ entry?, if_neg notFixed, last]

/-- The way to a place leads through directories, so a file put at its end does not stand in it. -/
theorem walk_put (disk : Disk) {start place : Place} {components : List String}
    (bytes : List UInt8) (way : disk.walk start components = .ok place)
    (free : disk.entry? place ≠ some .directory) :
    (disk.put place bytes).walk start components = .ok place := by
  induction components generalizing start with
  | nil => exact way
  | cons component rest ih =>
    have inside : disk.entry? start = some .directory := by
      rw [walk] at way
      split at way
      · cases way
      · assumption
      · cases way
    have elsewhere : start ≠ place := by
      rintro rfl
      exact free inside
    rw [walk, inside] at way
    rw [walk, entry?_put_of_ne disk bytes elsewhere, inside]
    dsimp only at way ⊢
    split at way
    · cases way
    · next short =>
      rw [if_neg short]
      exact ih way

/-- A file lies at a path with these bytes, or nothing lies there, which is as good as no bytes. -/
def HoldsFile (disk : Disk) (path : String) (bytes : List UInt8) : Prop :=
  ∃ place, disk.place path = .ok place ∧
    (bytes = [] ∧ disk.entry? place = none ∨ disk.entry? place = some (.file bytes))

/-- What a text was appended to is read with the text behind what was there before. -/
theorem openSource_appendText {disk after : Disk} {path text : String} {bytes : List UInt8}
    (holds : disk.HoldsFile path bytes) (appended : disk.appendText path text = .ok after) :
    after.openSource path = .ok ⟨bytes ++ text.toUTF8.toList, none⟩ := by
  obtain ⟨place, leads, lies⟩ := holds
  have noFault : pathFault? path = none := by
    rw [Disk.place] at leads
    split at leads
    · cases leads
    · assumption
  have way : disk.walk [] (pathComponents path) = .ok place := by
    rw [Disk.place, noFault] at leads
    exact leads
  have aFile : namesDirectory path = false := by
    refine Bool.eq_false_iff.2 fun directory => ?_
    have refused : disk.writablePlace path = .error (disk.directoryFault path) := by
      simp [writablePlace, noFault, directory]
    rw [appendText, modify, refused] at appended
    cases appended
  have writable : disk.writablePlace path = .ok place := by
    simp [writablePlace, aFile, leads]
  have free : disk.entry? place ≠ some .directory := by
    rcases lies with ⟨-, nothing⟩ | file
    · simp [nothing]
    · simp [file]
  have put : after = disk.put place (bytes ++ text.toUTF8.toList) := by
    rw [appendText, modify, writable] at appended
    dsimp only at appended
    rcases lies with ⟨rfl, nothing⟩ | file
    · rw [nothing] at appended
      exact (Except.ok.inj appended).symm
    · rw [file] at appended
      exact (Except.ok.inj appended).symm
  have leadsAfter : after.place path = .ok place := by
    rw [Disk.place, noFault, put]
    exact disk.walk_put _ way free
  rw [openSource, leadsAfter]
  dsimp only
  rw [put, disk.entry?_put _ free]
  simp [aFile, Entry.bytes]

end Disk

end PacketFilter
