import Mathlib.Data.List.Infix

namespace quixstreams

/-- A `pathlib.PurePosixPath`: its root (`""`, `"/"`, or `"//"`, which POSIX allows to differ
    from `"/"`) and its parts after the root. -/
structure PosixPath where
  root : String
  parts : List String
  deriving DecidableEq, Repr

/-- `posixpath.splitroot`, on the characters of a string. Leading slashes beyond the
    root only produce empty parts, which parsing drops anyway. -/
def splitroot : List Char → String × List Char
  | '/' :: '/' :: '/' :: rest => ("/", rest)
  | '/' :: '/' :: rest => ("//", rest)
  | '/' :: rest => ("/", rest)
  | rest => ("", rest)

/-- `text.split('/')`. -/
def split_sep : List Char → List (List Char)
  | [] => [[]]
  | c :: cs =>
    if c = '/' then [] :: split_sep cs
    else match split_sep cs with
      | [] => [[c]]
      | w :: ws => (c :: w) :: ws

/-- `'/'.join(parts)`. -/
def join_sep : List String → List Char
  | [] => []
  | [part] => part.data
  | part :: parts => part.data ++ '/' :: join_sep parts

/-- `PurePosixPath(text)`: empty parts and `.` parts are dropped, `..` is kept. -/
def PosixPath.of_str (text : String) : PosixPath :=
  let (root, rel) := splitroot text.data
  ⟨root, ((split_sep rel).map String.mk).filter fun part => part ≠ "" ∧ part ≠ "."⟩

/-- `str(path)`. -/
def PosixPath.str (p : PosixPath) : String :=
  if p.root = "" ∧ p.parts = [] then "." else ⟨p.root.data ++ join_sep p.parts⟩

/-- `path / segment` for a string segment: an absolute segment replaces the path. -/
def PosixPath.div (p : PosixPath) (segment : String) : PosixPath :=
  let q := PosixPath.of_str segment
  if q.root = "" then ⟨p.root, p.parts ++ q.parts⟩ else q

/-- `path.absolute()`, given the working directory `os.getcwd()`. -/
def PosixPath.absolute (p : PosixPath) (cwd : String) : PosixPath :=
  if p.root = "" then ⟨(PosixPath.of_str cwd).root, (PosixPath.of_str cwd).parts ++ p.parts⟩ else p

/-- The child path that `iterdir()` yields for an entry called `name`. -/
def PosixPath.child (p : PosixPath) (name : String) : PosixPath := ⟨p.root, p.parts ++ [name]⟩

/-- `path.name`. -/
def PosixPath.name (p : PosixPath) : String := p.parts.getLast?.getD ""

/-- `p.joinpath(*rel)`, for names without `/`. -/
def PosixPath.joinpath (p : PosixPath) (rel : List String) : PosixPath := ⟨p.root, p.parts ++ rel⟩

@[simp] theorem PosixPath.joinpath_nil (p : PosixPath) : p.joinpath [] = p := by
  simp [PosixPath.joinpath]

@[simp] theorem PosixPath.child_joinpath (p : PosixPath) (name : String) (rel : List String) :
    (p.child name).joinpath rel = p.joinpath (name :: rel) := by
  simp [PosixPath.joinpath, PosixPath.child]

/-- `path.parent`. -/
def PosixPath.parent (p : PosixPath) : PosixPath := ⟨p.root, p.parts.dropLast⟩

@[simp] theorem PosixPath.child_name (p : PosixPath) (name : String) : (p.child name).name = name := by
  simp [PosixPath.child, PosixPath.name]

@[simp] theorem PosixPath.child_parent (p : PosixPath) (name : String) : (p.child name).parent = p := by
  simp [PosixPath.child, PosixPath.parent]

/-- Resolving `..` parts from the root: without symbolic links, `..` leaves the directory
    before it, and `/` and `//` name the same root. -/
def resolve_dots (parts : List String) : List String :=
  parts.foldl (fun acc part => if part = ".." then acc.dropLast else acc ++ [part]) []

/-- The directories from the root down to the file a path names, seen from `cwd`. -/
def PosixPath.location (p : PosixPath) (cwd : String) : List String :=
  resolve_dots (p.absolute cwd).parts

/-- `q` is `d` or lies in the directory tree under `d`. -/
def PosixPath.Within (cwd : String) (q d : PosixPath) : Prop := d.location cwd <+: q.location cwd

instance (cwd : String) (q d : PosixPath) : Decidable (q.Within cwd d) :=
  inferInstanceAs (Decidable (_ <+: _))

/-- A part that parsing keeps as it is: non-empty, without `/`, and not `.`. -/
def PlainPart (part : String) : Prop := part ≠ "" ∧ '/' ∉ part.data ∧ part ≠ "."

/-- A path text that, joined to any directory with `/`, stays below it: relative, and with no
    `..` part. -/
def Descending (text : String) : Prop :=
  (PosixPath.of_str text).root = "" ∧ ".." ∉ (PosixPath.of_str text).parts

instance (text : String) : Decidable (Descending text) :=
  inferInstanceAs (Decidable (_ ∧ _))

/-- The paths parsing produces. -/
def PosixPath.WF (p : PosixPath) : Prop :=
  (p.root = "" ∨ p.root = "/" ∨ p.root = "//") ∧ ∀ part ∈ p.parts, PlainPart part

section round_trip

theorem split_sep_of_not_mem {cs : List Char} (h : '/' ∉ cs) : split_sep cs = [cs] := by
  induction cs with
  | nil => rfl
  | cons c cs ih =>
    simp only [List.mem_cons, not_or] at h
    simp [split_sep, Ne.symm h.1, ih h.2]

theorem split_sep_append {cs rest : List Char} (h : '/' ∉ cs) :
    split_sep (cs ++ '/' :: rest) = cs :: split_sep rest := by
  induction cs with
  | nil => simp [split_sep]
  | cons c cs ih =>
    simp only [List.mem_cons, not_or] at h
    simp [split_sep, Ne.symm h.1, ih h.2]

theorem split_sep_join_sep {parts : List String} (hne : parts ≠ [])
    (h : ∀ part ∈ parts, '/' ∉ part.data) :
    split_sep (join_sep parts) = parts.map String.data := by
  induction parts with
  | nil => exact absurd rfl hne
  | cons part parts ih =>
    cases parts with
    | nil => simp [join_sep, split_sep_of_not_mem (h part (List.mem_singleton_self _))]
    | cons next rest =>
      show split_sep (part.data ++ '/' :: join_sep (next :: rest)) = _
      rw [split_sep_append (h part (List.mem_cons_self _ _)),
        ih (List.cons_ne_nil next rest) (fun x hx => h x (List.mem_cons_of_mem _ hx))]
      rfl

theorem join_sep_head {parts : List String} (hne : parts ≠ [])
    (h : ∀ part ∈ parts, PlainPart part) : ∃ c rest, join_sep parts = c :: rest ∧ c ≠ '/' := by
  obtain ⟨part, parts, rfl⟩ := List.exists_cons_of_ne_nil hne
  obtain ⟨hempty, hslash, -⟩ := h part (List.mem_cons_self _ _)
  obtain ⟨c, cs, hcs⟩ : ∃ c cs, part.data = c :: cs := by
    cases hp : part.data with
    | nil => exact absurd (String.ext hp) hempty
    | cons c cs => exact ⟨c, cs, rfl⟩
  have hc : c ≠ '/' := fun hc => hslash (by simp [hcs, hc])
  cases parts with
  | nil => exact ⟨c, cs, by simp [join_sep, hcs], hc⟩
  | cons next rest => exact ⟨c, cs ++ '/' :: join_sep (next :: rest), by simp [join_sep, hcs], hc⟩

theorem splitroot_of_head {root : String} {c : Char} {rest : List Char}
    (hroot : root = "" ∨ root = "/" ∨ root = "//") (hc : c ≠ '/') :
    splitroot (root.data ++ c :: rest) = (root, c :: rest) := by
  rcases hroot with rfl | rfl | rfl <;> simp [splitroot, hc]

theorem filter_plain_parts {parts : List String} (h : ∀ part ∈ parts, PlainPart part) :
    ((parts.map String.data).map String.mk).filter (fun part => part ≠ "" ∧ part ≠ ".") =
      parts := by
  rw [List.map_map, List.filter_eq_self.mpr]
  · exact List.map_id'' (fun _ => rfl) parts
  · intro part hpart
    obtain ⟨x, hx, rfl⟩ := List.mem_map.mp hpart
    simpa using And.intro (h x hx).1 (h x hx).2.2

/-- Printing a parsed path and parsing the text again gives the same path. -/
theorem PosixPath.of_str_str {p : PosixPath} (hp : p.WF) : PosixPath.of_str p.str = p := by
  obtain ⟨root, parts⟩ := p
  obtain ⟨hroot, hparts⟩ := hp
  by_cases hdot : root = "" ∧ parts = []
  · obtain ⟨rfl, rfl⟩ := hdot
    decide
  rw [PosixPath.str, if_neg hdot]
  by_cases hnil : parts = []
  · subst hnil
    have hempty : root ≠ "" := fun h => hdot ⟨h, rfl⟩
    have hroot' : root = "/" ∨ root = "//" := by simpa [hempty] using hroot
    rcases hroot' with rfl | rfl <;> decide
  obtain ⟨c, rest, hjoin, hc⟩ := join_sep_head hnil hparts
  have hsplit := split_sep_join_sep hnil (fun part hpart => (hparts part hpart).2.1)
  simp only [PosixPath.of_str, hjoin, splitroot_of_head hroot hc]
  rw [← hjoin, hsplit, filter_plain_parts hparts]

theorem split_sep_no_sep : ∀ {cs w : List Char}, w ∈ split_sep cs → '/' ∉ w
  | [], w, h => by simp_all [split_sep]
  | c :: cs, w, h => by
    unfold split_sep at h
    split_ifs at h with hc
    · rcases List.mem_cons.mp h with rfl | h
      · simp
      · exact split_sep_no_sep h
    · split at h
      · simp_all [Ne.symm hc]
      · rename_i w' ws hsplit
        rcases List.mem_cons.mp h with rfl | h
        · have : '/' ∉ w' := split_sep_no_sep (by rw [hsplit]; exact List.mem_cons_self _ _)
          simp [Ne.symm hc, this]
        · exact split_sep_no_sep (by rw [hsplit]; exact List.mem_cons_of_mem _ h)

theorem splitroot_root (cs : List Char) :
    (splitroot cs).1 = "" ∨ (splitroot cs).1 = "/" ∨ (splitroot cs).1 = "//" := by
  unfold splitroot; split <;> simp

/-- Every parsed path is well formed. -/
theorem PosixPath.of_str_WF (text : String) : (PosixPath.of_str text).WF := by
  refine ⟨splitroot_root _, fun part hpart => ?_⟩
  simp only [PosixPath.of_str, List.mem_filter, List.mem_map, decide_eq_true_eq] at hpart
  obtain ⟨⟨w, hw, rfl⟩, hempty, hdot⟩ := hpart
  exact ⟨hempty, split_sep_no_sep hw, hdot⟩

/-- A plain name parses to a relative path of one part. -/
theorem PosixPath.of_str_plain {name : String} (h : PlainPart name) :
    PosixPath.of_str name = ⟨"", [name]⟩ := by
  have hplain : ∀ part ∈ [name], PlainPart part := fun part hpart => by
    rw [List.mem_singleton.mp hpart]; exact h
  have hsplit := split_sep_join_sep (List.cons_ne_nil name []) (fun part hpart => (hplain part hpart).2.1)
  obtain ⟨c, rest, hjoin, hc⟩ := join_sep_head (List.cons_ne_nil name []) hplain
  have hroot : splitroot (("" : String).data ++ c :: rest) = ("", c :: rest) :=
    splitroot_of_head (.inl rfl) hc
  simp only [join_sep] at hjoin hsplit
  simp only [PosixPath.of_str, hjoin]
  change splitroot (c :: rest) = ("", c :: rest) at hroot
  rw [hroot, ← hjoin, hsplit, filter_plain_parts hplain]

theorem PosixPath.absolute_WF {p : PosixPath} (hp : p.WF) (cwd : String) :
    (p.absolute cwd).WF := by
  unfold PosixPath.absolute
  split
  · obtain ⟨hroot, hparts⟩ := PosixPath.of_str_WF cwd
    refine ⟨hroot, fun part hpart => ?_⟩
    rcases List.mem_append.mp hpart with h | h
    · exact hparts part h
    · exact hp.2 part h
  · exact hp

theorem PosixPath.child_WF {p : PosixPath} (hp : p.WF) {name : String} (h : PlainPart name) :
    (p.child name).WF := by
  refine ⟨hp.1, fun part hpart => ?_⟩
  rcases List.mem_append.mp hpart with hpart | hpart
  · exact hp.2 part hpart
  · rw [List.mem_singleton.mp hpart]; exact h

theorem resolve_dots_append_plain (parts : List String) {name : String} (h : name ≠ "..") :
    resolve_dots (parts ++ [name]) = resolve_dots parts ++ [name] := by
  simp [resolve_dots, List.foldl_append, h]

/-- A child's location is one directory below its parent's. -/
theorem PosixPath.location_child (p : PosixPath) (cwd : String) {name : String}
    (h : name ≠ "..") : (p.child name).location cwd = p.location cwd ++ [name] := by
  unfold PosixPath.location PosixPath.absolute PosixPath.child
  by_cases hroot : p.root = "" <;> simp [hroot, ← List.append_assoc, resolve_dots_append_plain _ h]

theorem resolve_dots_append_of_not_mem (parts : List String) {rel : List String}
    (h : ".." ∉ rel) : resolve_dots (parts ++ rel) = resolve_dots parts ++ rel := by
  induction rel using List.reverseRecOn with
  | nil => simp
  | append_singleton rel part ih =>
    simp only [List.mem_append, List.mem_singleton, not_or] at h
    rw [← List.append_assoc, resolve_dots_append_plain _ (Ne.symm h.2), ih h.1,
      List.append_assoc]

/-- Below a directory, a descending path's location goes on with its parts. -/
theorem PosixPath.location_div (p : PosixPath) (cwd : String) {text : String}
    (h : Descending text) :
    (p.div text).location cwd = p.location cwd ++ (PosixPath.of_str text).parts := by
  unfold PosixPath.location PosixPath.absolute PosixPath.div
  by_cases hroot : p.root = "" <;>
    simp [h.1, hroot, ← List.append_assoc, resolve_dots_append_of_not_mem _ h.2]

theorem PosixPath.div_plain (p : PosixPath) {name : String} (h : PlainPart name) :
    p.div name = p.child name := by
  simp [PosixPath.div, PosixPath.of_str_plain h, PosixPath.child]

theorem digitChar_isDigit : ∀ k < 10, (Nat.digitChar k).isDigit = true := by decide

theorem toDigitsCore_succ (fuel n : Nat) (ds : List Char) :
    Nat.toDigitsCore 10 (fuel + 1) n ds = if n / 10 = 0 then Nat.digitChar (n % 10) :: ds
      else Nat.toDigitsCore 10 fuel (n / 10) (Nat.digitChar (n % 10) :: ds) := rfl

theorem isDigit_of_mem_toDigitsCore {fuel n : Nat} {ds : List Char}
    (hds : ∀ c ∈ ds, c.isDigit = true) : ∀ c ∈ Nat.toDigitsCore 10 fuel n ds, c.isDigit = true := by
  induction fuel generalizing n ds with
  | zero => exact hds
  | succ fuel ih =>
    have hcons : ∀ c ∈ Nat.digitChar (n % 10) :: ds, c.isDigit = true :=
      List.forall_mem_cons.mpr ⟨digitChar_isDigit _ (Nat.mod_lt _ (by decide)), hds⟩
    rw [toDigitsCore_succ]
    split
    · exact hcons
    · exact ih hcons

theorem toDigitsCore_ne_nil {fuel n : Nat} {ds : List Char} (hds : ds ≠ []) :
    Nat.toDigitsCore 10 fuel n ds ≠ [] := by
  induction fuel generalizing n ds with
  | zero => exact hds
  | succ fuel ih =>
    rw [toDigitsCore_succ]
    split
    · exact List.cons_ne_nil _ _
    · exact ih (List.cons_ne_nil _ _)

/-- `str(n)` of an integer: an optional `-` and decimal digits, never empty. -/
theorem int_repr_chars (p : Int) :
    (toString p).data ≠ [] ∧ ∀ c ∈ (toString p).data, c.isDigit = true ∨ c = '-' := by
  have hnat : ∀ m : Nat, (toString m).data ≠ [] ∧ ∀ c ∈ (toString m).data, c.isDigit = true := by
    intro m
    show Nat.toDigits 10 m ≠ [] ∧ ∀ c ∈ Nat.toDigits 10 m, c.isDigit = true
    unfold Nat.toDigits
    refine ⟨?_, isDigit_of_mem_toDigitsCore (by simp)⟩
    rw [toDigitsCore_succ]
    split
    · exact List.cons_ne_nil _ _
    · exact toDigitsCore_ne_nil (List.cons_ne_nil _ _)
  cases p with
  | ofNat m => exact ⟨(hnat m).1, fun c hc => .inl ((hnat m).2 c hc)⟩
  | negSucc m =>
    show '-' :: (toString (m + 1)).data ≠ [] ∧ ∀ c ∈ '-' :: (toString (m + 1)).data, _
    exact ⟨List.cons_ne_nil _ _,
      List.forall_mem_cons.mpr ⟨.inr rfl, fun c hc => .inl ((hnat _).2 c hc)⟩⟩

/-- The directory name `str(partition)` is one plain part, and not `..`. -/
theorem int_repr_plain (p : Int) : PlainPart (toString p) ∧ toString p ≠ ".." := by
  obtain ⟨hne, hchars⟩ := int_repr_chars p
  have hdot : '.' ∉ (toString p).data := fun h => by simpa using hchars '.' h
  exact ⟨⟨fun h => hne (by rw [h]), fun h => by simpa using hchars '/' h,
    fun h => hdot (by rw [h]; decide)⟩, fun h => hdot (by rw [h]; decide)⟩

end round_trip

end quixstreams
