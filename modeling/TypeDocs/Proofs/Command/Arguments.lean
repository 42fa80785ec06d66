import TypeDocs.Command.Arguments

/-!
# Command lines

An argument that does not begin like an option is an operand. So a command line can give a manifest
and leave everything else to the settings.
-/

namespace TypeDocs.Command

/-- The arguments of a run that is given a manifest only. -/
def ExportArguments.ofManifest (path : String) : ExportArguments :=
  ⟨path, none, [], none, none, none, false⟩

def Invocation.ofManifest (path : String) : Invocation :=
  ⟨0, false, none, false, .models (.ofManifest path)⟩

/-- What is read at the level of a command when its operand is. -/
def Reading.ofManifest (path : String) : Reading :=
  ⟨.ofCommand .model, some .model, ⟨[], some (.manifest, some path), true⟩⟩

variable {path : String}

theorem onward_of_operand (r : Reading) (rest : List String)
    (hpath : ∀ cs, path.toList ≠ '-' :: cs) (hpending : r.level.pending = none) :
    Reading.readAll.onward path rest path.toList r =
      (r.readOperand false path).bind fun r => Reading.readAll false rest r := by
  rw [Reading.readAll.onward]
  · rw [hpending]
    rfl
  · exact fun h => hpath _ h
  · exact fun name h => hpath _ h
  · exact fun c letters h => hpath _ h

theorem readAll_manifest (hpath : ∀ cs, path.toList ≠ '-' :: cs) :
    Reading.readAll false [path] ⟨.ofCommand .model, some .model, {}⟩ =
      .ok (.ofManifest path, none) := by
  have hend : Reading.readAll false [] (.ofManifest path) = .ok (.ofManifest path, none) := by
    rw [Reading.readAll]
  have honward := onward_of_operand ⟨.ofCommand .model, some .model, {}⟩ [] hpath rfl
  rw [Reading.readAll, if_neg Bool.false_ne_true]
  cases CommandName.ofText? path with
  | none => exact honward.trans hend
  | some c => exact honward.trans hend

theorem check_manifest (hsome : path.isEmpty = false) :
    check none (some .model) (.ofManifest path) =
      .ok ⟨⟨[(.manifest, path)], none, true⟩, none⟩ := by
  have htake : Level.take ⟨[], none, true⟩ (.ofCommand .model) (some .model) .manifest
      (some path) = .ok ⟨[(.manifest, path)], none, true⟩ := by
    change (if (!path.isEmpty) = true then _ else _) = _
    rw [hsome]
    rfl
  unfold check Reading.settle Level.settle Reading.ofManifest
  dsimp only
  rw [htake]
  rfl

/-- No command is named like an option. -/
theorem readAll_option {argument : String} (cs : List Char) (r : Reading) (rest : List String)
    (hcs : argument.toList = '-' :: cs) :
    Reading.readAll false (argument :: rest) r =
      Reading.readAll.onward argument rest ('-' :: cs) r := by
  have hne (name : String) (hname : name.toList.head? ≠ some '-') : name ≠ argument := by
    rintro rfl
    rw [hcs] at hname
    exact hname rfl
  have hcommand : CommandName.ofText? argument = none := by
    refine List.find?_eq_none.mpr fun c _ => ?_
    have hc : c.text ≠ argument := hne c.text (by cases c <;> decide)
    simpa using hc
  have hhelp : (argument == "help") = false := by
    simpa using (hne "help" (by decide)).symm
  rw [Reading.readAll, if_neg Bool.false_ne_true, hcommand, hhelp, hcs]
  dsimp only
  rw [Bool.and_false]
  rfl

/-- Behind the flags of the program its command is read. -/
theorem readAll_model (l : Level) (rest : List String) (hl : l.awaitsValue = false) :
    Reading.readAll false ("model" :: rest) ⟨.program, none, l⟩ =
      .ok (⟨.program, none, l⟩, some (.model, rest)) := by
  have hcommand : CommandName.ofText? "model" = some .model := by decide
  rw [Reading.readAll, if_neg Bool.false_ne_true, hcommand]
  dsimp only
  rw [hl]
  rfl

/-- A command line that gives a manifest only, behind flags of the program. -/
theorem read_flagged {arguments : List String} {l : Level} {checked : Checked}
    (hflags : Reading.readAll false arguments ⟨.program, none, {}⟩ =
      .ok (⟨.program, none, l⟩, some (.model, [path])))
    (hcheck : check none (some .model) ⟨.program, none, l⟩ = .ok checked)
    (hpath : ∀ cs, path.toList ≠ '-' :: cs) (hsome : path.isEmpty = false) :
    Command.read [] arguments =
      .ok (combine checked ⟨⟨[(.manifest, path)], none, true⟩, none⟩ .model) := by
  unfold Command.read
  rw [hflags]
  change Except.bind (Reading.readAll false [path] ⟨.ofCommand .model, some .model, {}⟩) _ = _
  rw [readAll_manifest hpath]
  change Except.bind (check none (some .model) (.ofManifest path)) _ = _
  rw [check_manifest hsome]
  change Except.bind (check none (some .model) ⟨.program, none, l⟩) _ = _
  rw [hcheck]
  rfl

theorem read_manifest (hpath : ∀ cs, path.toList ≠ '-' :: cs) (hsome : path.isEmpty = false) :
    Command.read [] ["model", path] = .ok (.ofManifest path) :=
  read_flagged (readAll_model {} [path] rfl) rfl hpath hsome

theorem read_quiet (hpath : ∀ cs, path.toList ≠ '-' :: cs) (hsome : path.isEmpty = false) :
    Command.read [] ["-q", "model", path] =
      .ok { Invocation.ofManifest path with quiet := true } := by
  have hflags : Reading.readAll false ["-q", "model", path] ⟨.program, none, {}⟩ =
      .ok (⟨.program, none, ⟨[(.quiet, "")], none, false⟩⟩, some (.model, [path])) := by
    rw [readAll_option ['q'] _ _ rfl, Reading.readAll.onward]
    · exact readAll_model ⟨[(.quiet, "")], none, false⟩ [path] rfl
    all_goals simp
  exact read_flagged hflags rfl hpath hsome

theorem read_verbose (hpath : ∀ cs, path.toList ≠ '-' :: cs) (hsome : path.isEmpty = false) :
    Command.read [] ["-v", "--no-color", "model", path] =
      .ok { Invocation.ofManifest path with verbose := 1, noColor := true } := by
  have hcolor : Reading.readAll false ["--no-color", "model", path]
      ⟨.program, none, ⟨[(.verbose, "")], none, false⟩⟩ =
        .ok (⟨.program, none, ⟨[(.verbose, ""), (.noColor, "")], none, false⟩⟩,
          some (.model, [path])) := by
    rw [readAll_option ['-', 'n', 'o', '-', 'c', 'o', 'l', 'o', 'r'] _ _ rfl,
      Reading.readAll.onward]
    · exact readAll_model ⟨[(.verbose, ""), (.noColor, "")], none, false⟩ [path] rfl
    all_goals simp
  have hflags : Reading.readAll false ["-v", "--no-color", "model", path]
      ⟨.program, none, {}⟩ = .ok (⟨.program, none, ⟨[(.verbose, ""), (.noColor, "")], none, false⟩⟩,
        some (.model, [path])) := by
    rw [readAll_option ['v'] _ _ rfl, Reading.readAll.onward]
    · exact hcolor
    all_goals simp
  exact read_flagged hflags rfl hpath hsome

end TypeDocs.Command
