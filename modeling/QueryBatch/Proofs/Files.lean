import Mathlib
import QueryBatch.Files
import QueryBatch.Proofs.Text.Encoding

/-!
# What is written to a file is read from it

A path is followed through folders, and a file that is written lies on no way that was followed, so
writing a file changes no walk (`walk_put`). Hence what was written to a file is read from it, also
after another file was written beside it (`readText_writeText_beside`).
-/

namespace QueryBatch

namespace Path

/-- The names between slashes. -/
def names (cs : List Char) : List String :=
  ((cs.splitOn '/').map String.ofList).filter fun name => name ≠ "" && name ≠ "."

theorem names_append_slash
    (before behind : List Char) :
    names (before ++ '/' :: behind) = names before ++ names behind := by
  unfold names
  rw [List.splitOn_append_cons_self, List.map_append, List.filter_append]

theorem parse_eq
    (text : String) :
    parse text = (if text.toList.head? = some '/' then ["/"] else []) ++ names text.toList := by
  unfold parse
  dsimp only [names]
  split <;> rfl

/-- The name of a file, which leads one step down. -/
structure IsFileName (name : String) : Prop where
  no_slash : '/' ∉ name.toList
  ne_empty : name ≠ ""
  ne_here : name ≠ "."
  ne_back : name ≠ ".."

theorem IsFileName.ne_root
    {name : String}
    (h : IsFileName name) :
    name ≠ "/" := by
  rintro rfl
  exact h.no_slash (by simp)

theorem IsFileName.step
    {name : String}
    (h : IsFileName name)
    (folder : Path) :
    folder.step name = folder ++ [name] := by
  simp [Path.step, h.ne_back]

/-- To join the name of a file to a folder is to go one name further. -/
theorem parse_join
    {name : String}
    (h : IsFileName name)
    (folder : String) :
    parse (join folder name) = parse folder ++ [name] := by
  have hname : names name.toList = [name] := by
    unfold names
    rw [List.splitOn_eq_singleton h.no_slash]
    simp [h.ne_empty, h.ne_here]
  have hnone : names [] = [] := by decide
  rw [parse_eq, parse_eq, List.append_assoc]
  unfold join
  by_cases hfolder : folder = ""
  · have hhead : name.toList.head? ≠ some '/' :=
      fun hhead => h.no_slash (List.mem_of_mem_head? hhead)
    simp [hfolder, hname, hnone, hhead]
  · have hne : folder.toList ≠ [] := by simpa using hfolder
    have hhead (cs : List Char) : (folder.toList ++ cs).head? = folder.toList.head? :=
      List.head?_append_of_ne_nil _ hne
    split
    · next hlast =>
        obtain hlast := hlast.resolve_left hfolder
        have hsplit := List.dropLast_append_getLast? _ hlast
        rw [String.toList_append, hhead, ← hsplit, List.append_assoc, List.singleton_append,
          names_append_slash, names_append_slash, hname, hnone, List.append_nil]
    · rw [String.toList_append, String.toList_append, List.append_assoc, hhead]
      have hjoined : "/".toList ++ name.toList = '/' :: name.toList := by simp
      rw [hjoined, names_append_slash, hname]

end Path

namespace Files

variable {files : Files} {path place : Path} {node : Node} {names : List String}

theorem node?_put_self
    (hempty : place ≠ [])
    (hroot : place ≠ ["/"])
    (files : Files)
    (node : Node) :
    (files.put place node).node? place = some node := by
  simp [node?, put, hempty, hroot]

theorem node?_put_of_ne
    (hne : path ≠ place)
    (files : Files)
    (node : Node) :
    (files.put place node).node? path = files.node? path := by
  have hlookup (entries : List (Path × Node)) :
      (entries.filter fun other => other.1 ≠ place).lookup path = entries.lookup path := by
    induction entries with
    | nil => rfl
    | cons entry entries ih =>
        obtain ⟨key, value⟩ := entry
        by_cases hplace : key = place
        · have hkey : (path == key) = false := by simpa [hplace] using hne
          rw [List.filter_cons_of_neg (by simpa using hplace), ih, List.lookup_cons, hkey]
        · rw [List.filter_cons_of_pos (by simpa using hplace), List.lookup_cons, List.lookup_cons,
            ih]
  have hkey : (path == place) = false := by simpa using hne
  unfold node? put
  simp only [List.lookup_cons, hkey, hlookup]

/-- A way that was followed does not lead over what is no folder. -/
theorem walk_put
    {target : Path}
    (hplace : files.node? place ≠ some .folder)
    (hwalk : files.walk path names = .ok target)
    (node : Node) :
    (files.put place node).walk path names = .ok target := by
  induction names generalizing path with
  | nil => exact hwalk
  | cons name names ih =>
      unfold walk at hwalk ⊢
      split at hwalk
      · next hfolder =>
          have hne : path ≠ place := by
            rintro rfl
            exact hplace hfolder
          rw [node?_put_of_ne hne, hfolder]
          exact ih hwalk
      · cases hwalk
      · cases hwalk

/-- To follow a path to its end, follow it to its folder first. -/
theorem walk_append
    (files : Files)
    (path : Path)
    (names : List String)
    (name : String) :
    files.walk path (names ++ [name])
      = (files.walk path names).bind fun folder => files.walk folder [name] := by
  induction names generalizing path with
  | nil => rfl
  | cons next names ih =>
      rw [List.cons_append, walk, walk]
      split
      · exact ih _
      · rfl
      · rfl

section Written

variable {name : String}

/-- The end of a walk to a file in a folder. -/
theorem walk_name
    {target : Path}
    (hname : Path.IsFileName name)
    (hwalk : files.walk [] (names ++ [name]) = .ok target) :
    ∃ folder, files.walk [] names = .ok folder ∧ files.node? folder = some .folder ∧
      target = folder ++ [name] := by
  rw [walk_append] at hwalk
  cases hfolder : files.walk [] names with
  | error e =>
      rw [hfolder] at hwalk
      cases hwalk
  | ok folder =>
      rw [hfolder] at hwalk
      simp only [Except.bind, walk] at hwalk
      split at hwalk
      · next hnode =>
          cases hwalk
          exact ⟨folder, rfl, hnode, hname.step folder⟩
      · cases hwalk
      · cases hwalk

/-- A walk to a name in a folder that is there. -/
theorem walk_of_folder
    {folder : Path}
    (hname : Path.IsFileName name)
    (hwalk : files.walk [] names = .ok folder)
    (hnode : files.node? folder = some .folder) :
    files.walk [] (names ++ [name]) = .ok (folder ++ [name]) := by
  rw [walk_append, hwalk]
  simp only [Except.bind, walk, hnode, hname.step]

/-- What it takes to write a file, and what it leaves. -/
theorem writeText_ok
    {after : Files}
    {text : String}
    (hname : Path.IsFileName name)
    (hwrite : files.writeText (names ++ [name]) text = .ok after) :
    ∃ folder, files.walk [] names = .ok folder ∧ files.node? folder = some .folder ∧
      files.node? (folder ++ [name]) ≠ some .folder ∧
      after = files.put (folder ++ [name]) (.file (Text.Utf8.encode text.toList)) := by
  unfold writeText writeOctets at hwrite
  cases htarget : files.walk [] (names ++ [name]) with
  | error e =>
      rw [htarget] at hwrite
      cases hwrite
  | ok target =>
      rw [htarget] at hwrite
      obtain ⟨folder, hwalk, hnode, rfl⟩ := walk_name hname htarget
      simp only [bind, Except.bind] at hwrite
      split at hwrite
      · cases hwrite
      · next hplace =>
          cases hwrite
          exact ⟨folder, hwalk, hnode, hplace, rfl⟩

/-- What it takes to read a file. -/
theorem readText_of_folder
    {folder : Path}
    {text : String}
    (hname : Path.IsFileName name)
    (hwalk : files.walk [] names = .ok folder)
    (hnode : files.node? folder = some .folder)
    (hfile : files.node? (folder ++ [name]) = some (.file (Text.Utf8.encode text.toList))) :
    files.readText (names ++ [name]) = .ok text := by
  unfold readText
  rw [walk_of_folder hname hwalk hnode]
  simp only [Except.bind, bind, hfile, Text.Utf8.decode?_encode, String.ofList_toList]

/-- What was written to a file is read from it, also after another file was written beside it. -/
theorem readText_writeText_beside
    {beside : String}
    {between after : Files}
    {text other : String}
    (hname : Path.IsFileName name)
    (hbeside : Path.IsFileName beside)
    (hne : name ≠ beside)
    (hwrite : files.writeText (names ++ [name]) text = .ok between)
    (hother : between.writeText (names ++ [beside]) other = .ok after) :
    after.readText (names ++ [name]) = .ok text := by
  obtain ⟨folder, hwalk, hnode, hplace, rfl⟩ := writeText_ok hname hwrite
  obtain ⟨same, hwalkSame, hnodeSame, hplaceSame, rfl⟩ := writeText_ok hbeside hother
  have hbetween := walk_put hplace hwalk (.file (Text.Utf8.encode text.toList))
  obtain rfl : folder = same := Except.ok.inj (hbetween.symm.trans hwalkSame)
  have hempty : folder ++ [name] ≠ [] := by simp
  have hroot : folder ++ [name] ≠ ["/"] := by
    cases folder with
    | nil => simpa using hname.ne_root
    | cons first folder => simp
  have hapart : folder ++ [name] ≠ folder ++ [beside] := by simpa using hne
  have hdown : folder ≠ folder ++ [beside] := by simp
  refine readText_of_folder hname (walk_put hplaceSame hwalkSame _) ?_ ?_
  · rw [node?_put_of_ne hdown, hnodeSame]
  · rw [node?_put_of_ne hapart, node?_put_self hempty hroot]

end Written

end Files

end QueryBatch
