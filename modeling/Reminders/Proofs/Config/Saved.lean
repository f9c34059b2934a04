import Reminders.Config.File
import Reminders.Proofs.Config.Text
import Reminders.Proofs.Files.Disk

/-!
Loading what was saved.

The configuration is saved into a file in a directory below the user's home directory; the directory is
made if it is not there. `Config.HasWay` says that no file stands where a directory has to be, and
`Config.CanHold` that the file can be written as well.

* `Config.HasWay.exists_makeDirectories`: what making the directory does to a disk.
* `Config.run_save`, `Config.run_loadFrom`: runs of the operations.
* `Config.save_load`
-/

namespace Reminders

open Disk (trail target IsClear Opens)

namespace Config

/-! ### The place of the file -/

/-- Where the path of the program's directory is followed from. -/
def origin (home : String) : List String :=
  if Path.isAbsolute (directory home) then [] else Path.names home

/-- The place of the program's directory. -/
def folder (home : String) : List String := target (origin home) (Path.names (directory home))

/-- The place of the configuration file. -/
def place (home : String) : List String := folder home ++ ["config.toml"]

/-- The places on the way to the program's directory. -/
def way (home : String) : List (List String) :=
  trail (origin home) (Path.names (directory home))

/-- No file stands on the way to the program's directory. -/
structure HasWay (d : Disk) (home : String) : Prop where
  origin : d.place? (origin home) = some .directory
  clear : ∀ p ∈ way home, d.IsClear p

/-- The configuration file can be written: no directory stands in its place or is to be made there. -/
structure CanHold (d : Disk) (home : String) : Prop extends HasWay d home where
  free : d.place? (place home) ≠ some .directory
  apart : place home ∉ way home

/-- The way to the program's directory leads through directories. -/
def IsMade (d : Disk) (home : String) : Prop := ∀ p ∈ way home, d.place? p = some .directory

theorem isPlainName_fileName : Path.IsPlainName "config.toml" :=
  ⟨by decide, by decide, by decide⟩

variable {d d' : Disk} {home : String}

theorem locate_defaultPath (d : Disk) (home : String) :
    d.locate (Path.names home) (defaultPath home) =
      d.walk (origin home) (Path.names (directory home) ++ ["config.toml"]) := by
  have absolute : Path.isAbsolute (defaultPath home) = Path.isAbsolute (directory home) :=
    Path.isAbsolute_join Path.join_ne_empty
  have names : Path.names (defaultPath home) = Path.names (directory home) ++ ["config.toml"] :=
    Path.names_join isPlainName_fileName
  rw [Disk.locate, defaultPath, if_neg Path.join_ne_empty, ← defaultPath, absolute, names, origin]

theorem IsMade.locate (made : IsMade d home) :
    d.locate (Path.names home) (defaultPath home) = .ok (place home) := by
  rw [locate_defaultPath]
  exact Disk.walk_concat made (by decide)

/-- What can be found has directories before it. -/
theorem isMade_of_at? {p : Place} (there : d.at? (Path.names home) (defaultPath home) = .ok p) :
    IsMade d home := by
  cases located : d.locate (Path.names home) (defaultPath home) with
  | error e =>
    rw [Disk.at?, located] at there
    cases there
  | ok place =>
    rw [locate_defaultPath] at located
    exact Disk.directories_of_walk located

theorem IsMade.hasWay (made : IsMade d home) : HasWay d home where
  origin := made _ (Disk.mem_trail_self ..)
  clear p mem text file := by
    rw [made p mem] at file
    cases file

theorem makeDirectories_eq (d : Disk) (home : String) :
    d.makeDirectories (Path.names home) (directory home) =
      d.makeAll (origin home) (Path.names (directory home)) := by
  rw [Disk.makeDirectories, directory, if_neg Path.join_ne_empty]
  rfl

/-- The program's directory is made. -/
theorem HasWay.exists_makeDirectories (hasWay : HasWay d home) :
    ∃ d', d.makeDirectories (Path.names home) (directory home) = .ok d' ∧ Opens d (way home) d' := by
  rw [makeDirectories_eq]
  exact Disk.exists_makeAll hasWay.origin hasWay.clear

/-! ### The operations -/

variable {c : Config}

/-- Saving when the directory cannot be made. -/
theorem run_save_of_error {e : FileError}
    (refused : d.makeDirectories (Path.names home) (directory home) = .error e) :
    (save (Disk.files home) c).run d = (.error (.file e), d) := by
  simp only [save, Disk.files, StateT.run_bind, StateT.run_get, pure_bind, refused, StateT.run_pure]
  rfl

/-- Saving what cannot be written. -/
theorem run_save_of_unwritable {e : ConfigError}
    (made : d.makeDirectories (Path.names home) (directory home) = .ok d')
    (unwritable : c.toText = .error e) :
    (save (Disk.files home) c).run d = (.error (.config e), d') := by
  simp only [save, Disk.files, StateT.run_bind, StateT.run_get, pure_bind, made, StateT.run_set,
    StateT.run_pure, unwritable]
  rfl

/-- Saving what can be written. -/
theorem run_save {d'' : Disk} {text : String}
    (made : d.makeDirectories (Path.names home) (directory home) = .ok d')
    (written : c.toText = .ok text)
    (put : d'.write (Path.names home) (defaultPath home) text = .ok d'') :
    (save (Disk.files home) c).run d = (.ok (), d'') := by
  simp only [save, Disk.files, StateT.run_bind, StateT.run_get, pure_bind, made, StateT.run_set,
    StateT.run_pure, written, put]
  rfl

/-- Loading from the file. -/
theorem run_loadFrom {text : String}
    (there : d.read (Path.names home) (defaultPath home) = .ok text) :
    (loadFrom (Disk.files home) (defaultPath home)).run d = (ofText text, d) := by
  simp only [loadFrom, Disk.files, StateT.run_bind, StateT.run_get, pure_bind, there,
    StateT.run_pure]
  rfl

/-- Loading from the file when it is there. -/
theorem run_load {p : Place} (there : d.at? (Path.names home) (defaultPath home) = .ok p) :
    (load (Disk.files home)).run d = (loadFrom (Disk.files home) (defaultPath home)).run d := by
  simp only [load, Disk.files, StateT.run_bind, StateT.run_get, pure_bind, there, StateT.run_pure]
  rfl

/-- What was saved is loaded. -/
theorem CanHold.exists_run_save {text : String} (holds : CanHold d home)
    (written : c.toText = .ok text) (understood : ofText text = .ok c) :
    ∃ d', (save (Disk.files home) c).run d = (.ok (), d') ∧
      (load (Disk.files home)).run d' = (.ok c, d') ∧
      (loadFrom (Disk.files home) (defaultPath home)).run d' = (.ok c, d') := by
  obtain ⟨d₁, made, opens⟩ := holds.toHasWay.exists_makeDirectories
  have single : Path.isDirectory (defaultPath home) = false :=
    Path.isDirectory_join isPlainName_fileName
  have free : d₁.place? (place home) ≠ some .directory := by
    rw [opens.same _ holds.apart]
    exact holds.free
  have located : d₁.locate (Path.names home) (defaultPath home) = .ok (place home) :=
    IsMade.locate opens.made
  have put : d₁.write (Path.names home) (defaultPath home) text =
      .ok (d₁.put (place home) (.file text)) := Disk.write_eq located free single
  -- The way is still open when the file is there.
  have stillMade : IsMade (d₁.put (place home) (.file text)) home := fun p mem =>
    Disk.place?_put_file free (opens.made p mem)
  have stands : (d₁.put (place home) (.file text)).place? (place home) = some (.file text) := by
    rw [Disk.place?_put (by simp [place]), if_pos rfl]
  have there := Disk.at?_eq stillMade.locate stands single
  have loaded := run_loadFrom (Disk.read_eq stillMade.locate stands single)
  rw [understood] at loaded
  exact ⟨_, run_save made written put, (run_load there).trans loaded, loaded⟩

/-- Without a text to write, saving fails and leaves every file as it is. -/
theorem run_save_of_toText_eq_error (d : Disk) (home : String) {e : ConfigError}
    (unwritable : c.toText = .error e) :
    ∃ failure d', (save (Disk.files home) c).run d = (.error failure, d') ∧
      (HasWay d home → failure = .config e) ∧
      ∀ p text, d'.place? p = some (.file text) ↔ d.place? p = some (.file text) := by
  cases made : d.makeDirectories (Path.names home) (directory home) with
  | error refused =>
    refine ⟨_, d, run_save_of_error made, fun hasWay => ?_, fun _ _ => .rfl⟩
    obtain ⟨d', done, -⟩ := hasWay.exists_makeDirectories
    rw [done] at made
    cases made
  | ok d' =>
    refine ⟨_, d', run_save_of_unwritable made unwritable, fun _ => rfl, ?_⟩
    rw [makeDirectories_eq] at made
    exact Disk.file_iff_of_makeAll made

/-- **A saved configuration is loaded again.** When the scheduler can run with the configuration, TOML
can hold its numbers and the user's home directory can hold the file, saving succeeds, and loading gives
the configuration as it was, whatever texts it holds. When a number is too large, saving fails and
leaves every file as it is; that number is the reason whenever the program's directory can be made, and
so whenever there is a configuration file already. -/
theorem save_load (c : Config) (d : Disk) (home : String) :
    (c.validate = .ok () → c.Fits → CanHold d home →
      ∃ d', (save (Disk.files home) c).run d = (.ok (), d') ∧
        (load (Disk.files home)).run d' = (.ok c, d') ∧
        (loadFrom (Disk.files home) (defaultPath home)).run d' = (.ok c, d')) ∧
    (¬c.Fits →
      ∃ failure d', (save (Disk.files home) c).run d = (.error failure, d') ∧
        (HasWay d home ∨ (∃ p, d.at? (Path.names home) (defaultPath home) = .ok p) →
          failure = .config .unwritable) ∧
        ∀ p text, d'.place? p = some (.file text) ↔ d.place? p = some (.file text)) := by
  constructor
  · intro valid fits holds
    exact holds.exists_run_save (toText_of_fits fits) (ofText_toText fits valid (toText_of_fits fits))
  · intro large
    obtain ⟨failure, d', ran, reason, kept⟩ :=
      run_save_of_toText_eq_error d home (toText_of_not_fits large)
    refine ⟨failure, d', ran, ?_, kept⟩
    rintro (hasWay | ⟨p, there⟩)
    · exact reason hasWay
    · exact reason (isMade_of_at? there).hasWay

end Config

namespace Sample

/-- A configuration whose texts hold quotes of both kinds, backslashes and ends of lines. -/
def quoting : Config where
  databasePath := "C:\\my \"data\""
  scheduler := .default
  defaultTemplate := "'''\r\n\x7b\x7bname\x7d\x7d\t\x00\"\"\" für \\"

/-- A configuration with a number that TOML cannot hold. -/
def vast : Config :=
  { Config.default with
    scheduler := { SchedulerConfig.default with tickIntervalSecs := 9223372036854775808 } }

/-- A disk with nothing on it. -/
def bare : Disk := ⟨[]⟩

theorem canHold_bare : Config.CanHold bare "/home/ada" where
  origin := rfl
  clear := by
    intro p _ text
    unfold Disk.place?
    split <;> nofun
  free := by decide +kernel
  apart := by decide +kernel

end Sample

/-- Awkward texts are saved and loaded; a number that is too large is refused. -/
theorem Config.save_load_sample :
    (∃ d, (Config.save (Disk.files "/home/ada") Sample.quoting).run Sample.bare = (.ok (), d) ∧
      (Config.load (Disk.files "/home/ada")).run d = (.ok Sample.quoting, d)) ∧
    ∃ d, (Config.save (Disk.files "/home/ada") Sample.vast).run Sample.bare =
      (.error (.config .unwritable), d) := by
  have large : ¬Sample.vast.Fits := fun fits =>
    absurd fits.tickIntervalSecs (by decide +kernel)
  have fits : Sample.quoting.Fits := ⟨by decide, by decide, by decide, by decide⟩
  obtain ⟨loads, -⟩ := Config.save_load Sample.quoting Sample.bare "/home/ada"
  obtain ⟨-, fails⟩ := Config.save_load Sample.vast Sample.bare "/home/ada"
  obtain ⟨d, saved, loaded, -⟩ := loads rfl fits Sample.canHold_bare
  obtain ⟨failure, d', failed, reason, -⟩ := fails large
  rw [reason (.inl Sample.canHold_bare.toHasWay)] at failed
  exact ⟨⟨d, saved, loaded⟩, d', failed⟩

end Reminders
