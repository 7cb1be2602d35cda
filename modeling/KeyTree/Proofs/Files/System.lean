/-
# Writing to one place

What a write does to a file system. A path that can be opened leads to one place: a file, or a name
that nothing has yet. Opening it empties the place, and storing a content fills it, as far as the
device goes along. Nothing else changes, and the path leads to the content afterwards.

* `FileSystem.Opens` — the place that a path opens for writing.
* `FileSystem.ChangedAt` — two file systems that agree but for the content of one place.
* `FileSystem.write_cases` — how a write ends.
-/

import KeyTree.Files.System
import KeyTree.Proofs.Outcome

namespace KeyTree.FileSystem

variable {fs after : FileSystem} {path : Path} {location : Location} {content : List UInt8}

/-- A path can be opened for writing at a place: it leads to something other than a directory, and
the device does not refuse. -/
structure Opens (fs : FileSystem) (path : Path) (location : Location) : Prop where
  leads : ∃ place, fs.place path = .ok place ∧ place.location? = some location
  allowed : fs.device.unwritable location = none

/-- A file system differs from an earlier one in one place, which holds a content now. -/
structure ChangedAt (fs : FileSystem) (location : Location) (content : List UInt8)
    (after : FileSystem) : Prop where
  holds : after.content? location = some content
  elsewhere : ∀ other, other ≠ location → after.content? other = fs.content? other
  directories : after.directories = fs.directories
  workingDirectory : after.workingDirectory = fs.workingDirectory
  device : after.device = fs.device

theorem changedAt_put (fs : FileSystem) (location : Location) (content : List UInt8) :
    fs.ChangedAt location content (fs.put location content) where
  holds := content?_put_self fs location content
  elsewhere _ other := content?_put_of_ne fs content other
  directories := rfl
  workingDirectory := rfl
  device := rfl

/-- What is put at a place replaces what was there. -/
theorem put_put (fs : FileSystem) (location : Location) (old content : List UInt8) :
    (fs.put location old).put location content = fs.put location content := by
  simp [put]

/-! ### The place of a path after a write -/

@[simp] theorem isDirectory_put (fs : FileSystem) (location other : Location)
    (content : List UInt8) :
    (fs.put location content).isDirectory other = fs.isDirectory other := rfl

/-- Names that lead to a place lead to the content that is put there. -/
theorem follow_put {place : Place} (target : place.location? = some location) :
    {start : Location} → {names : List String} → fs.follow start names = .ok place →
      (fs.put location content).follow start names = .ok (.file location content)
  | _, [], followed => by
    cases followed
    simp [Place.location?] at target
  | start, name :: rest, followed => by
    unfold follow at followed ⊢
    rw [isDirectory_put]
    split at followed
    · next up =>
      rw [if_pos up]
      exact follow_put target followed
    · next down =>
      rw [if_neg down]
      split at followed
      · cases followed
      · next short =>
        rw [if_neg short]
        split at followed
        · next directory =>
          rw [if_pos directory]
          exact follow_put target followed
        · next noDirectory =>
          -- Whether a file is there already or not, the name is the last one.
          have last : rest = [] ∧ start ++ [name] = location := by
            split at followed <;> split at followed <;> cases followed
            all_goals
              simp only [Place.location?, Option.some.injEq] at target
              exact ⟨by assumption, target⟩
          obtain ⟨rfl, rfl⟩ := last
          simp [noDirectory, content?_put_self]

theorem place_put_of_location {place : Place} (target : place.location? = some location)
    (placed : fs.place path = .ok place) :
    (fs.put location content).place path = .ok (.file location content) := by
  unfold FileSystem.place at placed ⊢
  split at placed
  · cases placed
  · next named =>
    rw [if_neg named]
    split at placed
    · cases placed
    · next short =>
      rw [if_neg short]
      exact follow_put target placed

/-! ### Opening and storing -/

theorem unlessRefused_eq_ok_iff {refusal : Option String} :
    unlessRefused refusal = .ok () ↔ refusal = none := by
  cases refusal <;> simp [unlessRefused]

theorem target_eq_ok_iff : fs.target path = .ok location ↔ fs.Opens path location := by
  unfold target
  rw [bind_eq_ok_iff]
  constructor
  · rintro ⟨place, placed, opened⟩
    split at opened
    · next found =>
      obtain ⟨_, allowed, opened⟩ := bind_eq_ok_iff.mp opened
      cases opened
      exact ⟨⟨place, placed, found⟩, unlessRefused_eq_ok_iff.mp allowed⟩
    · cases opened
  · rintro ⟨⟨place, placed, found⟩, allowed⟩
    refine ⟨place, placed, ?_⟩
    rw [found]
    exact bind_eq_ok_iff.mpr ⟨(), unlessRefused_eq_ok_iff.mpr allowed, rfl⟩

/-- A write changes nothing, when the path cannot be opened, or it opens a place, which holds the
content afterwards, or no more than its first bytes when the device takes no more. -/
theorem write_cases {outcome : Except FileFault Unit}
    (written : fs.write path content = (outcome, after)) :
    (∃ fault, outcome = .error fault ∧ after = fs) ∨
      ∃ location, fs.Opens path location ∧
        ((outcome = .ok () ∧ after = fs.put location content) ∨
          ∃ kept wording, fs.device.overfull location content = some (kept, wording) ∧
            outcome = .error (.refused wording) ∧
            after = fs.put location (content.take kept)) := by
  unfold write at written
  split at written
  · next fault refused =>
    cases written
    exact .inl ⟨fault, rfl, rfl⟩
  · next location opened =>
    refine .inr ⟨location, target_eq_ok_iff.mp opened, ?_⟩
    have device : (fs.put location []).device = fs.device := rfl
    simp only [store, device, put_put] at written
    split at written
    · cases written
      exact .inl ⟨rfl, rfl⟩
    · next kept wording limit =>
      cases written
      exact .inr ⟨kept, wording, limit, rfl, rfl⟩

/-- A path leads to what is put where it can be opened. -/
theorem Opens.place_put (opens : fs.Opens path location) (content : List UInt8) :
    (fs.put location content).place path = .ok (.file location content) := by
  obtain ⟨place, placed, found⟩ := opens.leads
  exact place_put_of_location found placed

end KeyTree.FileSystem
