import CredRegistry.Host.Files

/-!
# What stands at a path from the root

`FileSystem.Stands` says of the tree alone what stands at a way: every directory on it is there, and
every name is one of its own. The path that is written for such a way leads there
(`Stands.find`), and a file there is read through it (`Stands.read`), wherever the program works.
-/

namespace CredRegistry

namespace FileSystem

open Files

/-! ## The path of a way -/

/-- The path of a way from the root, unless the way is that of the root. -/
def pathOf : List String → String
  | [] => ""
  | name :: way => "/" ++ name ++ pathOf way

theorem pathOf_append (way rest : List String) :
    pathOf (way ++ rest) = pathOf way ++ pathOf rest := by
  induction way with
  | nil => rw [List.nil_append, pathOf, String.empty_append]
  | cons name way ih => rw [List.cons_append, pathOf, ih, pathOf, ← String.append_assoc]

theorem toList_pathOf (name : String) (way : List String) :
    (pathOf (name :: way)).toList = '/' :: (name.toList ++ (pathOf way).toList) := by
  rw [pathOf, String.toList_append, String.toList_append, List.append_assoc]
  rfl

theorem mem_pathOf {way : List String} {c : Char} (hc : c ∈ (pathOf way).toList) :
    c = '/' ∨ ∃ name ∈ way, c ∈ name.toList := by
  induction way with
  | nil => cases hc
  | cons name way ih =>
      rw [toList_pathOf] at hc
      rcases List.mem_cons.mp hc with rfl | hc
      · exact .inl rfl
      rcases List.mem_append.mp hc with hc | hc
      · exact .inr ⟨name, List.mem_cons_self .., hc⟩
      · rcases ih hc with rfl | ⟨later, hlater, hc⟩
        · exact .inl rfl
        · exact .inr ⟨later, List.mem_cons_of_mem _ hlater, hc⟩

/-- A name that stands for nothing but itself. -/
structure IsPlain (name : String) : Prop where
  isProper : isRelative name = false
  noSlash : '/' ∉ name.toList
  noZero : '\x00' ∉ name.toList
  short : name.utf8ByteSize ≤ nameBound

instance (name : String) : Decidable (IsPlain name) :=
  decidable_of_iff (isRelative name = false ∧ '/' ∉ name.toList ∧ '\x00' ∉ name.toList ∧
      name.utf8ByteSize ≤ nameBound)
    ⟨fun ⟨hproper, hslash, hzero, hshort⟩ => ⟨hproper, hslash, hzero, hshort⟩,
      fun ⟨hproper, hslash, hzero, hshort⟩ => ⟨hproper, hslash, hzero, hshort⟩⟩

theorem step_of_plain {way : List String} {name : String} (h : IsPlain name) :
    step way name = way ++ [name] := by
  have hproper := h.isProper
  simp only [isRelative, Bool.or_eq_false_iff] at hproper
  simp only [step, hproper, Bool.or_self, Bool.false_eq_true, if_false]

theorem splitOn_append {xs : List Char} (hxs : '/' ∉ xs) (ys : List Char) :
    (xs ++ ys).splitOn '/' = (ys.splitOn '/').modifyHead (xs ++ ·) := by
  induction xs with
  | nil => exact (congrFun List.modifyHead_id _).symm
  | cons x xs ih =>
      have hx : (x == '/') = false := beq_false_of_ne fun h => hxs (h ▸ List.mem_cons_self ..)
      have hxs : '/' ∉ xs := fun h => hxs (List.mem_cons_of_mem _ h)
      rw [List.splitOn] at ih ⊢
      rw [List.cons_append, List.splitOnP_cons_eq_if_modifyHead, hx, if_neg Bool.false_ne_true,
        ih hxs, List.modifyHead_modifyHead]
      rfl

theorem names_pathOf {way : List String} (h : ∀ name ∈ way, IsPlain name) :
    names (pathOf way) = "" :: way := by
  have hsplit : (pathOf way).toList.splitOn '/' = [] :: way.map String.toList := by
    induction way with
    | nil => rfl
    | cons name way ih =>
        have hname : '/' ∉ name.toList := (h name (List.mem_cons_self ..)).noSlash
        have hcons (cs : List Char) : ('/' :: cs).splitOn '/' = [] :: cs.splitOn '/' := by
          rw [List.splitOn, List.splitOnP_cons_eq_if_modifyHead]
          rfl
        rw [toList_pathOf, hcons, splitOn_append hname,
          ih fun later hlater => h later (List.mem_cons_of_mem _ hlater)]
        simp only [List.modifyHead_cons, List.append_nil, List.map_cons]
  rw [names, hsplit, List.map_cons, List.map_map]
  exact congrArg ("" :: ·) ((List.map_congr_left fun name _ => String.ofList_toList).trans
    (List.map_id way))

/-! ## What stands there -/

/-- A node stands at a way from the root: the directories on the way are there, the names on it
are names of their own, and it is not too long for a path. -/
structure Stands (fs : FileSystem) (way : List String) (node : FileNode) : Prop where
  node : fs.node? way = some node
  below : way ≠ []
  directories : ∀ k < way.length, fs.node? (way.take k) = some .directory
  plain : ∀ name ∈ way, IsPlain name
  short : (pathOf way).utf8ByteSize ≤ pathBound

instance (fs : FileSystem) (way : List String) (node : FileNode) :
    Decidable (fs.Stands way node) :=
  decidable_of_iff (fs.node? way = some node ∧ way ≠ [] ∧
      (∀ k < way.length, fs.node? (way.take k) = some .directory) ∧
      (∀ name ∈ way, IsPlain name) ∧ (pathOf way).utf8ByteSize ≤ pathBound)
    ⟨fun ⟨hnode, hbelow, hdirectories, hplain, hshort⟩ =>
        ⟨hnode, hbelow, hdirectories, hplain, hshort⟩,
      fun ⟨hnode, hbelow, hdirectories, hplain, hshort⟩ =>
        ⟨hnode, hbelow, hdirectories, hplain, hshort⟩⟩

variable {fs : FileSystem}

/-- Plain names are followed as far as there are directories. -/
theorem follow_plain {names front : List String} (hplain : ∀ name ∈ names, IsPlain name)
    (hdirectories : ∀ k < names.length, fs.node? (front ++ names.take k) = some .directory) :
    fs.follow front names = .ok (front ++ names) := by
  induction names generalizing front with
  | nil => rw [follow, List.append_nil]
  | cons name names ih =>
      have hname : IsPlain name := hplain name (List.mem_cons_self ..)
      have hfront : fs.node? front = some .directory := by
        have := hdirectories 0 (Nat.succ_pos _)
        rwa [List.take_zero, List.append_nil] at this
      rw [follow, hfront]
      simp only [Nat.not_lt.mpr hname.short, if_false, step_of_plain hname]
      rw [ih (fun later hlater => hplain later (List.mem_cons_of_mem _ hlater)),
        List.append_assoc, List.singleton_append]
      intro k hk
      rw [List.append_assoc, List.singleton_append]
      exact hdirectories (k + 1) (Nat.succ_lt_succ hk)

variable {way : List String} {node : FileNode}

/-- The path of a way leads to what stands there. -/
theorem Stands.find (h : fs.Stands way node) : fs.find (pathOf way) = .ok node := by
  have hzero : (pathOf way).toList.contains '\x00' = false := by
    rw [Bool.eq_false_iff, ne_eq, List.contains_iff_mem]
    intro hmem
    rcases mem_pathOf hmem with hslash | ⟨name, hname, hmem⟩
    · cases hslash
    · exact (h.plain name hname).noZero hmem
  obtain ⟨name, rest, rfl⟩ : ∃ name rest, way = name :: rest :=
    List.exists_cons_of_ne_nil h.below
  have hlist := toList_pathOf name rest
  have hempty : (pathOf (name :: rest)).isEmpty = false := by
    rw [Bool.eq_false_iff, ne_eq, String.isEmpty_iff]
    intro hempty
    rw [hempty] at hlist
    cases hlist
  have horigin : fs.origin (pathOf (name :: rest)) = [] := by
    rw [origin, hlist]
    rfl
  -- the path starts at the root, where an empty name in front leads nowhere else
  have hroot : fs.node? [] = some .directory := h.directories 0 (Nat.succ_pos _)
  have hfollow : fs.follow [] ("" :: name :: rest) = .ok (name :: rest) := by
    rw [follow, hroot]
    exact follow_plain h.plain h.directories
  simp only [FileSystem.find, hzero, hempty, Nat.not_lt.mpr h.short, horigin,
    names_pathOf h.plain, hfollow, Bool.false_eq_true, if_false, bind, Except.bind, h.node]

theorem Stands.read {content : List UInt8} (h : fs.Stands way (.file content)) :
    fs.read (pathOf way) = .ok content := by
  simp only [FileSystem.read, h.find, bind, Except.bind]

end FileSystem

end CredRegistry
