import Modelsmith.Files.Path

/-! The names of a path made of others: of a name below a directory, and of the path one step up. -/

set_option autoImplicit false

namespace Modelsmith.Path

theorem splitSlashes_ne_nil (path : List Char) : splitSlashes path ≠ [] := by
  cases path with
  | nil => simp [splitSlashes]
  | cons c rest =>
    rw [splitSlashes]
    split
    · simp
    · split <;> simp

theorem splitSlashes_append (front back : List Char) :
    splitSlashes (front ++ '/' :: back) = splitSlashes front ++ splitSlashes back := by
  induction front with
  | nil => simp [splitSlashes]
  | cons c rest ih =>
    by_cases slash : c = '/'
    · simp [splitSlashes, slash, ih]
    · obtain ⟨part, parts, split⟩ := List.exists_cons_of_ne_nil (splitSlashes_ne_nil rest)
      simp [splitSlashes, slash, ih, split]

theorem splitSlashes_of_flat {name : List Char} (flat : '/' ∉ name) : splitSlashes name = [name] := by
  induction name with
  | nil => rfl
  | cons c rest ih =>
    rw [List.mem_cons, not_or] at flat
    rw [splitSlashes, if_neg (Ne.symm flat.1), ih flat.2]

theorem splitSlashes_flat {path part : List Char} (member : part ∈ splitSlashes path) :
    '/' ∉ part := by
  induction path generalizing part with
  | nil =>
    rw [List.mem_singleton.mp member]
    exact List.not_mem_nil
  | cons c rest ih =>
    by_cases slash : c = '/'
    · rw [splitSlashes, if_pos slash, List.mem_cons] at member
      rcases member with rfl | later
      · exact List.not_mem_nil
      · exact ih later
    · obtain ⟨first, parts, split⟩ := List.exists_cons_of_ne_nil (splitSlashes_ne_nil rest)
      rw [split] at ih
      simp only [splitSlashes, if_neg slash, split, List.mem_cons] at member
      rcases member with rfl | later
      · simp [Ne.symm slash, ih List.mem_cons_self]
      · exact ih (List.mem_cons_of_mem _ later)

theorem flat_of_mem_names {path name : String} (member : name ∈ names path) :
    '/' ∉ name.toList := by
  obtain ⟨part, kept, rfl⟩ := List.mem_map.mp member
  rw [String.toList_ofList]
  exact splitSlashes_flat (List.mem_filter.mp kept).1

def namesOf (path : List Char) : List String :=
  ((splitSlashes path).filter (· ≠ [])).map String.ofList

theorem names_eq (path : String) : names path = namesOf path.toList := rfl

theorem namesOf_append (front back : List Char) :
    namesOf (front ++ '/' :: back) = namesOf front ++ namesOf back := by
  simp [namesOf, splitSlashes_append]

theorem namesOf_flat {name : List Char} (flat : '/' ∉ name) (nonempty : name ≠ []) :
    namesOf name = [String.ofList name] := by
  simp [namesOf, splitSlashes_of_flat flat, nonempty]

theorem mem_namesOf {front name back : List Char} (flat : '/' ∉ name) (nonempty : name ≠ [])
    (before : front = [] ∨ front.getLast? = some '/') (behind : back = [] ∨ ∃ more, back = '/' :: more) :
    String.ofList name ∈ namesOf (front ++ (name ++ back)) := by
  have member : String.ofList name ∈ namesOf (name ++ back) := by
    rcases behind with rfl | ⟨more, rfl⟩
    · rw [List.append_nil, namesOf_flat flat nonempty]
      exact List.mem_singleton_self _
    · rw [namesOf_append, namesOf_flat flat nonempty]
      exact List.mem_cons_self
  rcases before with rfl | slash
  · exact member
  · obtain ⟨first, rfl⟩ := List.getLast?_eq_some_iff.mp slash
    rw [List.append_assoc, List.singleton_append, namesOf_append]
    exact List.mem_append_right _ member

theorem toList_split_of_getLast {text : String} (slash : text.toList.getLast? = some '/') :
    ∃ front, text.toList = front ++ ['/'] := by
  obtain ⟨front, same⟩ := List.getLast?_eq_some_iff.mp slash
  exact ⟨front, same⟩

theorem join_of_flat {directory name : String} (nonempty : directory ≠ "")
    (flat : '/' ∉ name.toList) (filled : name ≠ "") :
    names (join directory name) = names directory ++ [name] ∧
      isAbsolute (join directory name) = isAbsolute directory ∧
      endsInSlash (join directory name) = false := by
  have relative : isAbsolute name = false := by
    rw [isAbsolute, decide_eq_false_iff_not]
    intro head
    exact flat (List.mem_of_head? head)
  have chars : name.toList ≠ [] := mt String.toList_eq_nil_iff.mp filled
  have single : namesOf name.toList = [name] := by rw [namesOf_flat flat chars, String.ofList_toList]
  have ends {text : String} {front : List Char} (joined : text.toList = front ++ '/' :: name.toList) :
      endsInSlash text = false := by
    rw [endsInSlash, decide_eq_false_iff_not, joined, List.append_cons]
    intro last
    have isLast := List.getLast?_eq_some_getLast chars
    rw [List.getLast?_append, isLast, Option.some_or] at last
    exact flat (List.mem_of_getLast? (isLast.trans last))
  obtain ⟨first, rest, start⟩ :=
    List.exists_cons_of_ne_nil (mt String.toList_eq_nil_iff.mp nonempty)
  by_cases slash : directory.toList.getLast? = some '/'
  · obtain ⟨front, split⟩ := toList_split_of_getLast slash
    have joined : (join directory name).toList = front ++ '/' :: name.toList := by
      simp [join, relative, nonempty, split]
    refine ⟨?_, ?_, ?_⟩
    · rw [names_eq, joined, namesOf_append, single, names_eq, split, namesOf_append]
      simp [namesOf, splitSlashes]
    · rw [isAbsolute, isAbsolute, joined, split]
      cases front <;> simp
    · exact ends joined
  · have joined : (join directory name).toList = directory.toList ++ '/' :: name.toList := by
      simp [join, relative, nonempty, slash]
    refine ⟨?_, ?_, ?_⟩
    · rw [names_eq, joined, namesOf_append, single, names_eq]
    · rw [isAbsolute, isAbsolute, joined, start]
      simp
    · exact ends joined

theorem join_inj {directory first second : String}
    (plain : ∀ name ∈ [first, second], '/' ∉ name.toList ∧ name ≠ "" ∧ name ≠ ".")
    (equal : parts (join directory first) = parts (join directory second)) : first = second := by
  have last {name : String} (plain : '/' ∉ name.toList ∧ name ≠ "" ∧ name ≠ ".") :
      (parts (join directory name)).getLast? = some name := by
    obtain ⟨flat, filled, noDot⟩ := plain
    have ends : ∃ front, names (join directory name) = front ++ [name] := by
      by_cases nonempty : directory = ""
      · refine ⟨[], ?_⟩
        rw [join, nonempty, if_pos (by simp), names_eq,
          namesOf_flat flat (mt String.toList_eq_nil_iff.mp filled), String.ofList_toList]
        rfl
      · exact ⟨_, (join_of_flat nonempty flat filled).1⟩
    obtain ⟨front, same⟩ := ends
    rw [parts, same, List.filter_append]
    simp [noDot]
  have both := congrArg List.getLast? equal
  rw [last (plain first (by simp)), last (plain second (by simp))] at both
  exact Option.some.inj both

/-! ## One step up -/

theorem dropTrailing_head (reversed : List Char) : (dropTrailing reversed).head? ≠ some '/' := by
  fun_induction dropTrailing reversed with
  | case1 rest ih => exact ih
  | case2 rest ih => exact ih
  | case3 rest noSlash _ =>
    intro head
    obtain ⟨more, rfl⟩ := List.head?_eq_some_iff.mp head
    exact noSlash more rfl

theorem dropTrailing_ne_dot (reversed rest : List Char) :
    dropTrailing reversed ≠ '.' :: '/' :: rest := by
  fun_induction dropTrailing reversed with
  | case1 _ ih => exact ih
  | case2 _ ih => exact ih
  | case3 _ _ noDot => exact noDot rest

theorem dropTrailing_append (reversed : List Char) :
    ∃ tail, reversed = tail ++ dropTrailing reversed ∧ (tail = [] ∨ tail.getLast? = some '/') := by
  fun_induction dropTrailing reversed with
  | case1 rest ih =>
    obtain ⟨tail, same, ends⟩ := ih
    refine ⟨'/' :: tail, by rw [List.cons_append, ← same], .inr ?_⟩
    rcases ends with rfl | last
    · rfl
    · simp [List.getLast?_cons, last]
  | case2 rest ih =>
    obtain ⟨tail, same, ends⟩ := ih
    refine ⟨'.' :: '/' :: tail, by rw [List.cons_append, List.cons_append, ← same], .inr ?_⟩
    rcases ends with rfl | last
    · rfl
    · simp [List.getLast?_cons, last]
  | case3 rest _ _ => exact ⟨[], rfl, .inl rfl⟩

theorem trimmed_append (path : List Char) :
    ∃ tail, path = trimmed path ++ tail ∧ (tail = [] ∨ ∃ more, tail = '/' :: more) := by
  obtain ⟨tail, same, ends⟩ := dropTrailing_append path.reverse
  refine ⟨tail.reverse, ?_, ?_⟩
  · rw [trimmed, ← List.reverse_append, ← same, List.reverse_reverse]
  · rcases ends with rfl | last
    · exact .inl rfl
    · rw [← List.head?_reverse] at last
      obtain ⟨more, start⟩ := List.head?_eq_some_iff.mp last
      exact .inr ⟨more, start⟩

theorem trimmed_getLast (path : List Char) : (trimmed path).getLast? ≠ some '/' := by
  rw [trimmed, List.getLast?_reverse]
  exact dropTrailing_head _

theorem trimmed_ne_dot (path front : List Char) : trimmed path ≠ front ++ ['/', '.'] := by
  intro dotted
  refine dropTrailing_ne_dot path.reverse front.reverse ?_
  have reversed := congrArg List.reverse dotted
  rw [trimmed, List.reverse_reverse] at reversed
  simpa using reversed

theorem splitLast_flat (path : List Char) : '/' ∉ (splitLast path).2 := by
  intro member
  have kept := List.all_takeWhile (p := fun c => decide (c ≠ '/')) (l := path.reverse)
  rw [List.all_eq_true] at kept
  exact absurd rfl (decide_eq_true_iff.mp (kept '/' (List.mem_reverse.mp member)))

theorem splitLast_append (path : List Char) :
    (splitLast path).1 ++ (splitLast path).2 = path ∧
      ((splitLast path).1 = [] ∨ (splitLast path).1.getLast? = some '/') := by
  have whole : (path.reverse.dropWhile (· ≠ '/')).reverse ++
      (path.reverse.takeWhile (· ≠ '/')).reverse = path := by
    rw [← List.reverse_append, List.takeWhile_append_dropWhile, List.reverse_reverse]
  have front : (splitLast path).1 = (path.reverse.dropWhile (· ≠ '/')).reverse := by
    have length := congrArg List.length whole
    rw [List.length_append] at length
    exact (congrArg (List.take _) whole.symm).trans (List.take_left' (by omega))
  refine ⟨by rw [front]; exact whole, ?_⟩
  rw [front, List.getLast?_reverse]
  have slash := List.head?_dropWhile_not (· ≠ '/') path.reverse
  cases head : (path.reverse.dropWhile (· ≠ '/')).head? with
  | none => exact .inl (by simpa using head)
  | some c =>
    rw [head] at slash
    exact .inr (by simpa using slash)

/-- A path that goes through the same names first, from the same place. -/
def Leading (part path : String) : Prop :=
  isAbsolute part = isAbsolute path ∧ ∃ rest, names path = names part ++ rest

theorem Leading.refl (path : String) : Leading path path := ⟨rfl, [], by simp⟩

/-- A leading part that stops before a name. -/
def Above (part path : String) : Prop :=
  isAbsolute part = isAbsolute path ∧
    ∃ rest, names path = names part ++ rest ∧ ∃ name ∈ rest, name ≠ "."

theorem Above.leading {part path : String} (above : Above part path) : Leading part path := by
  obtain ⟨start, rest, same, -⟩ := above
  exact ⟨start, rest, same⟩

theorem Leading.above {first second third : String} (left : Leading first second)
    (right : Above second third) : Above first third := by
  obtain ⟨start, rest, same⟩ := left
  obtain ⟨begin, more, equal, name, member, noDot⟩ := right
  refine ⟨start.trans begin, rest ++ more, by rw [equal, same, List.append_assoc], name, ?_, noDot⟩
  exact List.mem_append_right _ member

theorem above_of_parent? {path parent : String} (up : parent? path = some parent) :
    parent = "" ∨ parent = "/" ∨ Above parent path := by
  have unfolded : parent? path =
      let parts := splitLast (trimmed path.toList)
      if parts.2 = [] then none
      else some (String.ofList (if trimmed parts.1 = [] ∧ parts.1 ≠ [] then ['/']
        else trimmed parts.1)) := rfl
  obtain ⟨tail, whole, behind⟩ := trimmed_append path.toList
  obtain ⟨split, ends⟩ := splitLast_append (trimmed path.toList)
  have flat := splitLast_flat (trimmed path.toList)
  have noDots := trimmed_ne_dot path.toList
  rw [← split] at noDots
  -- From here on only the pieces count, not how they were cut.
  generalize splitLast (trimmed path.toList) = parts at split ends unfolded flat noDots
  obtain ⟨directory, name⟩ := parts
  obtain ⟨gap, shorter, gapStart⟩ := trimmed_append directory
  have noSlash := trimmed_getLast directory
  simp only at split ends unfolded flat noDots
  rw [← split] at whole
  generalize trimmed directory = above at shorter noSlash unfolded
  rw [up] at unfolded
  split at unfolded
  · cases unfolded
  rename_i filledName
  obtain rfl := Option.some.inj unfolded
  by_cases root : above = [] ∧ directory ≠ []
  · rw [if_pos root]
    exact .inr (.inl (String.toList_inj.mp (by simp)))
  rw [if_neg root]
  by_cases empty : directory = []
  · have none : above = [] := by
      rw [empty] at shorter
      exact (List.append_eq_nil_iff.mp shorter.symm).1
    rw [none]
    exact .inl (String.toList_inj.mp (by simp))
  · -- The directory ends in a slash, which is trimmed.
    have slash := ends.resolve_left empty
    obtain ⟨more, rfl⟩ : ∃ more, gap = '/' :: more := by
      refine gapStart.resolve_left ?_
      rintro rfl
      rw [List.append_nil] at shorter
      exact noSlash (shorter ▸ slash)
    have filled : above ≠ [] := fun none => root ⟨none, empty⟩
    have chars : path.toList = above ++ '/' :: (more ++ (name ++ tail)) := by
      rw [whole, shorter]
      simp
    refine .inr (.inr ⟨?_, namesOf (more ++ (name ++ tail)), ?_, String.ofList name, ?_, ?_⟩)
    · obtain ⟨first, rest, rfl⟩ := List.exists_cons_of_ne_nil filled
      simp [isAbsolute, chars]
    · rw [names_eq, chars, namesOf_append, names_eq, String.toList_ofList]
    · refine mem_namesOf flat filledName ?_ behind
      rw [shorter, List.getLast?_append] at slash
      cases more with
      | nil => exact .inl rfl
      | cons c rest => exact .inr (by simpa [List.getLast?_cons] using slash)
    · -- A dot behind a slash is trimmed as well.
      intro isDot
      obtain ⟨front, split⟩ := List.getLast?_eq_some_iff.mp slash
      refine noDots front ?_
      have single : name = ['.'] := by
        rw [← @String.toList_ofList name, isDot]
        rfl
      rw [split, single, List.append_assoc]
      rfl

end Modelsmith.Path
