import ControllerCompanion.Proofs.Splitting
import ControllerCompanion.Storage.FilePath

set_option autoImplicit false

/-! # Joined paths

The text of a path to which a name is joined is read as the path of a file with that name in the
directory, if the name is a single part of a path (`ofText_join`). -/

namespace ControllerCompanion.FilePath

/-! ## Parts of a text -/

/-- The parts of the text of a path. -/
def partsOf (text : List Char) : List (List Char) :=
  (text.splitOn '/').filter fun part => !part.isEmpty

theorem ofText_eq (text : String) :
    ofText text
      = { isAbsolute := text.toList.head? == some '/'
          steps := (partsOf text.toList).map fun part => stepOf (String.ofList part)
          asksDirectory := !(partsOf text.toList).isEmpty && text.toList.getLast? == some '/'
          length := text.utf8ByteSize } := rfl

theorem partsOf_append_slash (before behind : List Char) :
    partsOf (before ++ '/' :: behind) = partsOf before ++ partsOf behind := by
  rw [partsOf, List.splitOn_append_cons_self, List.filter_append]
  rfl

/-- A text with another character than slashes has a part. -/
theorem partsOf_ne_nil {text : List Char} {c : Char} (hc : c ∈ text) (hne : c ≠ '/') :
    partsOf text ≠ [] := by
  have hjoined : c ∈ ['/'].intercalate (text.splitOn '/') := by
    rwa [List.intercalate_splitOn]
  rcases Splitting.eq_or_mem_of_mem_intercalate hjoined with hslash | ⟨part, hpart, hmem⟩
  · exact absurd hslash hne
  · refine List.ne_nil_of_mem (List.mem_filter.2 ⟨hpart, ?_⟩)
    simpa using List.ne_nil_of_mem hmem

/-! ## Names -/

/-- A name that is a single part of a path, and leads to something below. -/
structure IsPart (name : String) : Prop where
  noSlash : '/' ∉ name.toList
  ne_empty : name ≠ ""
  ne_here : name ≠ "."
  ne_up : name ≠ ".."

theorem IsPart.partsOf {name : String} (h : IsPart name) :
    FilePath.partsOf name.toList = [name.toList] := by
  have hsplit : name.toList.splitOn '/' = [name.toList] :=
    List.splitOn_eq_singleton h.noSlash
  rw [FilePath.partsOf, hsplit]
  simpa using h.ne_empty

theorem IsPart.stepOf {name : String} (h : IsPart name) :
    FilePath.stepOf name = .into (.text name) := by
  rw [FilePath.stepOf, if_neg h.ne_here, if_neg h.ne_up]

theorem length_loop (bytes : ByteArray) (i : Nat) (front : List UInt8) :
    (ByteArray.toList.loop bytes i front).length = bytes.size - i + front.length := by
  fun_induction ByteArray.toList.loop bytes i front with
  | case1 i front _ ih =>
      rw [ih, List.length_cons]
      omega
  | case2 i front _ =>
      rw [List.length_reverse]
      omega

theorem length_bytes_text (name : String) :
    (FileName.text name).bytes.length = name.utf8ByteSize := by
  rw [FileName.bytes, Text.utf8, List.length_map, ByteArray.toList, length_loop]
  rfl

/-! ## Joining -/

/-- The text of a path with another one joined to it: an absolute one takes its place, and a slash
is put before any other one, unless the path is empty or ends in a slash. -/
def join (directory path : String) : String :=
  if path.toList.head? = some '/' then path
  else if directory.toList.getLast?.all (· == '/') then directory ++ path
  else directory ++ "/" ++ path

theorem getLast?_append_beq_slash {name : String} (h : IsPart name) (front : List Char)
    {text : List Char} (htext : text = front ++ name.toList) :
    (text.getLast? == some '/') = false := by
  have hnonempty : name.toList ≠ [] := by simpa using h.ne_empty
  have hne : name.toList.getLast hnonempty ≠ '/' :=
    fun heq => h.noSlash (heq ▸ List.getLast_mem hnonempty)
  rw [htext, List.getLast?_append, List.getLast?_eq_some_getLast hnonempty, Option.some_or]
  simpa using hne

/-- The path of a name behind a text that has parts and a slash before the name. -/
theorem ofText_append {name : String} (h : IsPart name) {front : String} {before : List Char}
    (hfront : front.toList = before ++ ['/']) :
    ofText (front ++ name)
      = { isAbsolute := front.toList.head? == some '/'
          steps := ((partsOf before).map fun part => stepOf (String.ofList part))
            ++ [.into (.text name)]
          asksDirectory := false
          length := front.utf8ByteSize + (FileName.text name).bytes.length } := by
  have htext : (front ++ name).toList = before ++ '/' :: name.toList := by
    rw [String.toList_append, hfront, List.append_assoc]
    rfl
  have hparts : partsOf (before ++ '/' :: name.toList) = partsOf before ++ [name.toList] := by
    rw [partsOf_append_slash, h.partsOf]
  have hlast : ((before ++ '/' :: name.toList).getLast? == some '/') = false :=
    getLast?_append_beq_slash h (before ++ ['/']) (by simp)
  have hhead : (before ++ '/' :: name.toList).head? = front.toList.head? := by
    rw [hfront]
    cases before <;> rfl
  rw [ofText_eq, htext, hparts, hlast, hhead, Bool.and_false, List.map_append,
    String.utf8ByteSize_append, length_bytes_text, List.map_singleton, String.ofList_toList,
    h.stepOf]

/-- **A name that is a single part of a path is joined as the name of a file in the directory.** -/
theorem ofText_join {name : String} (h : IsPart name) (directory : String) :
    ofText (join directory name) = (ofText directory).child (.text name) := by
  have hhead : name.toList.head? ≠ some '/' :=
    fun hhead => h.noSlash (List.mem_of_mem_head? hhead)
  unfold join
  rw [if_neg hhead]
  cases hend : directory.toList.getLast? with
  | none =>
      -- nothing is put before the name
      obtain rfl : directory = "" := by simpa using hend
      have hlast : (name.toList.getLast? == some '/') = false :=
        getLast?_append_beq_slash h [] rfl
      have hfirst : (name.toList.head? == some '/') = false := by simpa using hhead
      rw [if_pos (by simp), String.empty_append, ofText_eq, h.partsOf, hlast, hfirst,
        Bool.and_false, List.map_singleton, String.ofList_toList, h.stepOf]
      simp [child, ofText, length_bytes_text]
  | some d =>
      obtain ⟨before, hdirectory⟩ := List.getLast?_eq_some_iff.1 hend
      by_cases hslash : d = '/'
      · subst hslash
        have hparts : partsOf directory.toList = partsOf before := by
          rw [hdirectory, partsOf_append_slash]
          exact List.append_nil _
        rw [if_pos (by simp), ofText_append h hdirectory, ofText_eq, hparts]
        simp [child, hend]
      · have hparts : partsOf directory.toList ≠ [] :=
          partsOf_ne_nil (List.mem_of_mem_getLast? hend) hslash
        have hfront : (directory ++ "/").toList = directory.toList ++ ['/'] := by simp
        have hhead : (directory ++ "/").toList.head? = directory.toList.head? := by
          rw [hfront, hdirectory]
          cases before <;> rfl
        have hsize : "/".utf8ByteSize = 1 := by decide
        rw [if_neg (by simpa using hslash), ofText_append h hfront, ofText_eq, hhead]
        simp [child, hend, hslash, hparts, hsize]

end ControllerCompanion.FilePath
