import EditGuard.Files.Tree
import EditGuard.Proofs.Text.Lines
import EditGuard.Proofs.Text.Utf8

/-! # Paths to places

The path of a place leads there from every directory, as far as it goes through directories and is
not too long. A name alone leads to what bears it in the directory itself. Putting a node at a
place leaves every way that is no longer than the one to that place.
-/

namespace EditGuard.Files

open Text

/-! ## Paths as they are given -/

namespace FilePath

variable {path : FilePath} {text : String}

end FilePath

/-! ## Names -/

/-- A name that leads one step down. -/
structure IsName (name : String) : Prop where
  ne_empty : name ≠ ""
  slash_not_mem : '/' ∉ name.toList
  ne_here : name ≠ "."
  ne_above : name ≠ ".."

/-! ## Texts of paths -/

/-- Names, each behind a slash. -/
def slashed (names : List String) : List Char := names.flatMap fun name => '/' :: name.toList

theorem slashed_cons (name : String) (names : List String) :
    slashed (name :: names) = '/' :: (name.toList ++ slashed names) := by
  rw [slashed, List.flatMap_cons, List.cons_append]
  rfl

theorem slashed_concat (place : Place) (name : String) :
    slashed (place ++ [name]) = slashed place ++ '/' :: name.toList := by
  simp [slashed]

theorem toList_foldl_path (place : Place) (start : String) :
    (place.foldl (fun path name => path ++ "/" ++ name) start).toList =
      start.toList ++ slashed place := by
  induction place generalizing start with
  | nil => simp [slashed]
  | cons name place ih =>
    rw [List.foldl_cons, ih, slashed_cons, String.toList_append, String.toList_append]
    simp

theorem toList_pathText {place : Place} (h : place ≠ []) :
    (pathText place).toList = slashed place := by
  have hfull : place.isEmpty = false := List.isEmpty_eq_false_iff.2 h
  rw [pathText, hfull, if_neg (by simp), toList_foldl_path]
  rfl

theorem IsName.not_startsWith {name : String} (h : IsName name) : name.startsWith "/" = false := by
  rw [String.startsWith_string_eq_false_iff]
  intro hstarts
  obtain ⟨rest, hrest⟩ := hstarts
  apply h.slash_not_mem
  rw [← hrest]
  exact List.mem_cons_self

theorem IsName.toList_ne_nil {name : String} (h : IsName name) : name.toList ≠ [] := by
  intro hnil
  exact h.ne_empty (String.toList_eq_nil_iff.1 hnil)

/-- The path of a place ends in the last name, which holds no slash. -/
theorem not_endsWith_pathText {place : Place} (hplace : ∀ name ∈ place, IsName name)
    (hne : place ≠ []) : (pathText place).endsWith "/" = false := by
  have hlast := hplace (place.getLast hne) (List.getLast_mem hne)
  rw [String.endsWith_eq_endsWith_toSlice, String.Slice.endsWith_string_eq_false_iff,
    String.copy_toSlice, toList_pathText hne]
  rw [← List.dropLast_concat_getLast hne, slashed_concat]
  intro hends
  obtain ⟨front, hfront⟩ := hends
  have hslash := congrArg List.getLast? hfront
  rw [List.getLast?_append, List.getLast?_append, List.getLast?_cons] at hslash
  cases hname : (place.getLast hne).toList.getLast? with
  | none => exact hlast.toList_ne_nil (List.getLast?_eq_none_iff.1 hname)
  | some c =>
    rw [hname] at hslash
    have hc : '/' = c := Option.some.inj hslash
    rw [← hc] at hname
    exact hlast.slash_not_mem (List.mem_of_getLast? hname)

theorem toList_joinPath {place : Place} {name : String} (hplace : ∀ name ∈ place, IsName name)
    (hname : IsName name) :
    (joinPath (pathText place) name).toList = slashed (place ++ [name]) := by
  by_cases hroot : place = []
  · rw [hroot, joinPath, hname.not_startsWith]
    have htext : pathText [] = "/" := rfl
    have hends : ("/" : String).endsWith "/" = true := by decide +kernel
    have hempty : ("/" : String).isEmpty = false := by decide +kernel
    rw [htext, hends, hempty, if_neg (by simp), if_pos rfl, String.toList_append]
    simp [slashed]
  · have htext := toList_pathText hroot
    have hempty : (pathText place).isEmpty = false := by
      rw [String.isEmpty_eq_false_iff]
      intro hnil
      rw [hnil] at htext
      obtain ⟨first, rest, rfl⟩ := List.exists_cons_of_ne_nil hroot
      rw [slashed_cons] at htext
      cases htext
    rw [joinPath, hname.not_startsWith, hempty, not_endsWith_pathText hplace hroot,
      if_neg (by simp), if_neg (by simp), String.toList_append, String.toList_append, htext,
      slashed_concat]
    simp

theorem exists_joinPath_eq (directory : String) :
    ∃ front, ∀ name, IsName name → joinPath directory name = front ++ name := by
  by_cases hempty : directory.isEmpty = true
  · refine ⟨"", fun name hname => ?_⟩
    rw [joinPath, hempty, Bool.or_true, if_pos rfl, String.empty_append]
  · by_cases hends : directory.endsWith "/" = true
    · refine ⟨directory, fun name hname => ?_⟩
      rw [joinPath, hname.not_startsWith, Bool.false_or, if_neg hempty, if_pos hends]
    · refine ⟨directory ++ "/", fun name hname => ?_⟩
      rw [joinPath, hname.not_startsWith, Bool.false_or, if_neg hempty, if_neg hends]

theorem splitOn_slashed {text : List Char} {names : List String} (ht : '/' ∉ text)
    (hnames : ∀ name ∈ names, IsName name) :
    List.splitOn '/' (text ++ slashed names) = text :: names.map String.toList := by
  induction names generalizing text with
  | nil =>
    rw [slashed, List.flatMap_nil, List.append_nil]
    exact List.splitOn_eq_singleton ht
  | cons name names ih =>
    obtain ⟨hname, hrest⟩ := List.forall_mem_cons.1 hnames
    rw [slashed_cons, List.splitOn_append_cons_self_of_not_mem ht,
      ih hname.slash_not_mem hrest, List.map_cons]

theorem map_step_names {names : List String} (hnames : ∀ name ∈ names, IsName name) :
    (names.map String.toList).map (fun step => if step.isEmpty then "." else String.ofList step) =
      names := by
  induction names with
  | nil => rfl
  | cons name names ih =>
    obtain ⟨hname, hrest⟩ := List.forall_mem_cons.1 hnames
    have hfull : name.toList.isEmpty = false := List.isEmpty_eq_false_iff.2 hname.toList_ne_nil
    rw [List.map_cons, List.map_cons, ih hrest, hfull, if_neg (by simp), String.ofList_toList]

/-- An absolute path starts at the root and goes through its names. -/
theorem pathSteps_of_slashed {path : String} {names : List String}
    (hnames : ∀ name ∈ names, IsName name) (h : path.toList = slashed names) :
    pathSteps path = "." :: names := by
  have hsplit : List.splitOn '/' (slashed names) = [] :: names.map String.toList :=
    splitOn_slashed List.not_mem_nil hnames
  rw [pathSteps, h, hsplit, List.map_cons, map_step_names hnames]
  rfl

theorem pathSteps_name {name : String} (h : IsName name) : pathSteps name = [name] := by
  have hsingle : ∀ n ∈ [name], IsName n := by simpa using h
  rw [pathSteps, List.splitOn_eq_singleton h.slash_not_mem]
  exact map_step_names hsingle

/-! ## Ways -/

namespace Tree

variable {t : Tree} {base p : Place} {name : String} {names : List String}

/-- A step down leaves a directory. -/
theorem walk_cons_eq_ok_iff (hname : IsName name) :
    t.walk base (name :: names) = .ok p ↔ t.node? base = some .directory ∧
      name.utf8ByteSize ≤ nameLimit ∧ t.walk (base ++ [name]) names = .ok p := by
  rw [walk]
  cases t.node? base with
  | none => simp
  | some n =>
    cases n with
    | file bytes => simp
    | locked fault => simp
    | directory =>
      simp only [if_neg hname.ne_here, if_neg hname.ne_above, true_and]
      by_cases hlong : nameLimit < name.utf8ByteSize
      · rw [if_pos hlong]
        simp [Nat.not_le.2 hlong]
      · rw [if_neg hlong]
        simp [Nat.le_of_not_lt hlong]

theorem walk_concat_eq_ok_iff (hnames : ∀ name ∈ names, IsName name) (hname : IsName name) :
    t.walk base (names ++ [name]) = .ok p ↔ t.walk base names = .ok (base ++ names) ∧
      t.node? (base ++ names) = some .directory ∧ name.utf8ByteSize ≤ nameLimit ∧
      p = base ++ names ++ [name] := by
  induction names generalizing base with
  | nil =>
    rw [List.nil_append, walk_cons_eq_ok_iff hname, List.append_nil]
    simp [walk, eq_comm]
  | cons first names ih =>
    obtain ⟨hfirst, hrest⟩ := List.forall_mem_cons.1 hnames
    rw [List.cons_append, walk_cons_eq_ok_iff hfirst, ih hrest, walk_cons_eq_ok_iff hfirst,
      List.append_assoc base [first] names, List.singleton_append]
    simp only [and_assoc]

/-- A new node stands in no way that is no longer than the one to it. -/
theorem walk_put (hnames : ∀ name ∈ names, IsName name) {place : Place} (n : Node)
    (hlong : (base ++ names).length ≤ place.length) (h : t.walk base names = .ok p) :
    (t.put place n).walk base names = .ok p := by
  induction names generalizing base with
  | nil => exact h
  | cons name names ih =>
    obtain ⟨hname, hrest⟩ := List.forall_mem_cons.1 hnames
    obtain ⟨hnode, hsize, hwalk⟩ := (walk_cons_eq_ok_iff hname).1 h
    have hshort : base.length < place.length := by
      rw [List.length_append, List.length_cons] at hlong
      omega
    have hplace : place ≠ [] := by
      intro hnil
      rw [hnil, List.length_nil] at hshort
      omega
    have hother : base ≠ place := by
      intro heq
      rw [heq] at hshort
      omega
    refine (walk_cons_eq_ok_iff hname).2 ⟨?_, hsize, ih hrest ?_ hwalk⟩
    · rw [node?_put hplace, if_neg hother]
      exact hnode
    · rw [List.append_assoc, List.singleton_append]
      exact hlong

/-! ## What paths lead to -/

theorem resolve_absolute {path : String} (directory : Place)
    (hnames : ∀ name ∈ names, IsName name) (hne : names ≠ [])
    (hpath : path.toList = slashed names) :
    t.resolve directory path = .ok p ↔ path.utf8ByteSize < pathLimit ∧ t.walk [] names = .ok p := by
  obtain ⟨first, rest, hfirst⟩ := List.exists_cons_of_ne_nil hne
  have hstart : path.startsWith "/" = true := by
    rw [String.startsWith_string_iff, hpath, hfirst, slashed_cons]
    exact ⟨first.toList ++ slashed rest, rfl⟩
  have hempty : path.isEmpty = false := by
    rw [String.isEmpty_eq_false_iff]
    intro hnil
    rw [hnil, hfirst, slashed_cons] at hpath
    cases hpath
  have hroot : t.walk [] ("." :: names) = t.walk [] names := rfl
  rw [resolve, hempty, hstart, if_neg (by simp), if_pos rfl, pathSteps_of_slashed hnames hpath,
    hroot]
  by_cases hlong : pathLimit ≤ path.utf8ByteSize
  · rw [if_pos hlong]
    simp [Nat.not_lt.2 hlong]
  · rw [if_neg hlong]
    simp [Nat.lt_of_not_le hlong]

/-- The path of something in a directory leads there if the path of the directory does. -/
theorem resolve_joinPath (directory : Place) {place : Place}
    (hplace : ∀ name ∈ place, IsName name) (hname : IsName name) :
    t.resolve directory (joinPath (pathText place) name) = .ok p ↔
      (joinPath (pathText place) name).utf8ByteSize < pathLimit ∧ t.walk [] place = .ok place ∧
        t.node? place = some .directory ∧ name.utf8ByteSize ≤ nameLimit ∧ p = place ++ [name] := by
  have hnames : ∀ n ∈ place ++ [name], IsName n := by
    intro n hn
    rcases List.mem_append.1 hn with hn | hn
    · exact hplace n hn
    · rw [List.mem_singleton.1 hn]
      exact hname
  rw [resolve_absolute directory hnames (by simp) (toList_joinPath hplace hname),
    walk_concat_eq_ok_iff hplace hname, List.nil_append]

theorem resolve_name {directory : Place} (hnode : t.node? directory = some .directory)
    (hname : IsName name) (hsize : name.utf8ByteSize ≤ nameLimit) :
    t.resolve directory name = .ok (directory ++ [name]) := by
  have hempty : name.isEmpty = false := String.isEmpty_eq_false_iff.2 hname.ne_empty
  have hshort : ¬ pathLimit ≤ name.utf8ByteSize := by
    have hlimits : nameLimit < pathLimit := by decide
    omega
  rw [resolve, hempty, if_neg (by simp), if_neg hshort, hname.not_startsWith, if_neg (by simp),
    pathSteps_name hname]
  exact (walk_cons_eq_ok_iff hname).2 ⟨hnode, hsize, rfl⟩

theorem isFile_eq_true_iff {directory : Place} {path : String} :
    t.isFile directory path = true ↔
      ∃ place n, t.resolve directory path = .ok place ∧ t.node? place = some n ∧
        n ≠ .directory := by
  unfold isFile find
  cases t.resolve directory path with
  | error fault => simp
  | ok place =>
    cases hnode : t.node? place with
    | none => simp [hnode]
    | some n => cases n <;> simp [hnode]

theorem readText_of_file {directory place : Place} {path text : String}
    (hpath : t.resolve directory path = .ok place)
    (hnode : t.node? place = some (.file (toUtf8 text))) :
    t.readText directory path = .ok text := by
  simp only [readText, find, hpath, hnode, Node.text, ofUtf8?_toUtf8]

end Tree

end EditGuard.Files
