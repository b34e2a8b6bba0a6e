import Mathlib.Data.List.Basic

namespace quixstreams

/-- `d.get(key)`, where a dictionary is the list of its items in insertion order. -/
def dict_get {κ ν : Type} [DecidableEq κ] : List (κ × ν) → κ → Option ν
  | [], _ => none
  | (k, v) :: items, key => if k = key then some v else dict_get items key

/-- `d[key] = value`: an existing item keeps its place, a new one is appended. -/
def dict_set {κ ν : Type} [DecidableEq κ] : List (κ × ν) → κ → ν → List (κ × ν)
  | [], key, value => [(key, value)]
  | (k, v) :: items, key, value =>
    if k = key then (k, value) :: items else (k, v) :: dict_set items key value

/-- Mutating the object stored under `key` in place, when there is one. -/
def dict_update {κ ν : Type} [DecidableEq κ] : List (κ × ν) → κ → (ν → ν) → List (κ × ν)
  | [], _, _ => []
  | (k, v) :: items, key, f =>
    if k = key then (k, f v) :: items else (k, v) :: dict_update items key f

/-- A dictionary with the same keys and `f` applied to every value: a comprehension
    `{k: f(v) for k, v in d.items()}`, or every value mutated in place. -/
def dict_map_values {κ ν ν' : Type} (d : List (κ × ν)) (f : ν → ν') : List (κ × ν') :=
  d.map fun item => (item.1, f item.2)

@[simp] theorem dict_map_values_keys {κ ν ν' : Type} (d : List (κ × ν)) (f : ν → ν') :
    (dict_map_values d f).map Prod.fst = d.map Prod.fst := by
  simp [dict_map_values, Function.comp_def]

section dict

variable {κ ν ν' : Type} [DecidableEq κ]

@[simp] theorem dict_get_nil (key : κ) : dict_get ([] : List (κ × ν)) key = none := rfl

@[simp] theorem dict_get_set (d : List (κ × ν)) (key key' : κ) (value : ν) :
    dict_get (dict_set d key value) key' = if key = key' then some value else dict_get d key' := by
  induction d with
  | nil => simp [dict_set, dict_get]
  | cons item items ih =>
    obtain ⟨k, v⟩ := item
    by_cases hk : k = key
    · subst hk; by_cases h : k = key' <;> simp [dict_set, dict_get, h]
    · simp only [dict_set, dict_get, if_neg hk, ih]
      split_ifs <;> simp_all

@[simp] theorem dict_get_update (d : List (κ × ν)) (key key' : κ) (f : ν → ν) :
    dict_get (dict_update d key f) key' =
      if key = key' then (dict_get d key').map f else dict_get d key' := by
  induction d with
  | nil => simp [dict_update]
  | cons item items ih =>
    obtain ⟨k, v⟩ := item
    by_cases hk : k = key
    · subst hk; by_cases h : k = key' <;> simp [dict_update, dict_get, h]
    · simp only [dict_update, dict_get, if_neg hk, ih]
      split_ifs <;> simp_all

@[simp] theorem dict_get_map_values (d : List (κ × ν)) (key : κ) (f : ν → ν') :
    dict_get (dict_map_values d f) key = (dict_get d key).map f := by
  induction d with
  | nil => rfl
  | cons item items ih => by_cases h : item.1 = key <;> simp_all [dict_map_values, dict_get]

theorem mem_of_dict_get {d : List (κ × ν)} {key : κ} {value : ν}
    (h : dict_get d key = some value) : (key, value) ∈ d := by
  induction d with
  | nil => cases h
  | cons item items ih =>
    obtain ⟨k, v⟩ := item
    by_cases hk : k = key
    · subst hk; simp_all [dict_get]
    · simp only [dict_get, if_neg hk] at h
      exact List.mem_cons_of_mem _ (ih h)

@[simp] theorem dict_update_keys (d : List (κ × ν)) (key : κ) (f : ν → ν) :
    (dict_update d key f).map Prod.fst = d.map Prod.fst := by
  induction d with
  | nil => rfl
  | cons item items ih => unfold dict_update; split_ifs <;> simp [ih]

theorem mem_keys_iff_dict_get_isSome (d : List (κ × ν)) (key : κ) :
    key ∈ d.map Prod.fst ↔ (dict_get d key).isSome := by
  induction d with
  | nil => simp
  | cons item items ih =>
    obtain ⟨k, v⟩ := item
    by_cases hk : k = key
    · simp [dict_get, hk]
    · simp [dict_get, hk, ih, Ne.symm hk]

/-- `dict_set` keeps the keys distinct. -/
theorem dict_set_keys_nodup {d : List (κ × ν)} (h : (d.map Prod.fst).Nodup) (key : κ) (value : ν) :
    ((dict_set d key value).map Prod.fst).Nodup := by
  induction d with
  | nil => simp [dict_set]
  | cons item items ih =>
    obtain ⟨k, v⟩ := item
    simp only [List.map_cons, List.nodup_cons] at h
    unfold dict_set
    split_ifs with hk
    · simpa using h
    · simp only [List.map_cons, List.nodup_cons]
      refine ⟨fun hmem => ?_, ih h.2⟩
      rw [mem_keys_iff_dict_get_isSome, dict_get_set] at hmem
      split_ifs at hmem with hkey
      · exact hk hkey.symm
      · exact h.1 ((mem_keys_iff_dict_get_isSome items k).mpr hmem)

/-- With distinct keys, an item of the dictionary is what `d.get` finds. -/
theorem dict_get_of_mem {d : List (κ × ν)} (h : (d.map Prod.fst).Nodup) {key : κ} {value : ν}
    (hmem : (key, value) ∈ d) : dict_get d key = some value := by
  induction d with
  | nil => cases hmem
  | cons item items ih =>
    obtain ⟨k, v⟩ := item
    simp only [List.map_cons, List.nodup_cons] at h
    rcases List.mem_cons.mp hmem with heq | hmem
    · cases heq; simp [dict_get]
    · have hne : k ≠ key := fun hk => h.1 (hk ▸ List.mem_map_of_mem Prod.fst hmem)
      simp [dict_get, hne, ih h.2 hmem]

theorem mem_dict_set {d : List (κ × ν)} {key : κ} {value : ν} {item : κ × ν}
    (h : item ∈ dict_set d key value) : item ∈ d ∨ item = (key, value) := by
  induction d with
  | nil => simpa [dict_set] using h
  | cons item' items ih =>
    unfold dict_set at h
    split_ifs at h with hk
    · rcases List.mem_cons.mp h with rfl | h
      · exact .inr (by rw [hk])
      · exact .inl (List.mem_cons_of_mem _ h)
    · rcases List.mem_cons.mp h with rfl | h
      · exact .inl (List.mem_cons_self _ _)
      · exact (ih h).imp_left (List.mem_cons_of_mem _)

theorem mem_dict_update {d : List (κ × ν)} {key : κ} {f : ν → ν} {item : κ × ν}
    (h : item ∈ dict_update d key f) : item ∈ d ∨ ∃ value, (key, value) ∈ d ∧ item = (key, f value) := by
  induction d with
  | nil => cases h
  | cons item' items ih =>
    obtain ⟨k, v⟩ := item'
    unfold dict_update at h
    split_ifs at h with hk
    · rcases List.mem_cons.mp h with rfl | h
      · exact .inr ⟨v, by simp [hk], by rw [hk]⟩
      · exact .inl (List.mem_cons_of_mem _ h)
    · rcases List.mem_cons.mp h with rfl | h
      · exact .inl (List.mem_cons_self _ _)
      · exact (ih h).imp (List.mem_cons_of_mem _) fun ⟨value, hmem, heq⟩ =>
          ⟨value, List.mem_cons_of_mem _ hmem, heq⟩

end dict

/-- Splitting a run of calls at one call: the first call, or one of the rest. -/
theorem exists_cons_eq_append_cons {α : Type} (a : α) (l : List α)
    (P : List α → α → List α → Prop) :
    (∃ pre x post, a :: l = pre ++ x :: post ∧ P pre x post) ↔
      P [] a l ∨ ∃ pre x post, l = pre ++ x :: post ∧ P (a :: pre) x post := by
  constructor
  · rintro ⟨pre, x, post, h, hp⟩
    cases pre with
    | nil => cases h; exact .inl hp
    | cons b pre => cases h; exact .inr ⟨pre, x, post, rfl, hp⟩
  · rintro (hp | ⟨pre, x, post, rfl, hp⟩)
    · exact ⟨[], a, l, rfl, hp⟩
    · exact ⟨a :: pre, x, post, rfl, hp⟩

/-- The last call that decides a property: the first call, or one of the rest. -/
theorem or_and_or_shuffle {A M N F E : Prop} :
    (A ∨ M ∧ N) ∧ F ∨ E ↔ M ∧ N ∧ F ∨ A ∧ F ∨ E := by
  rw [or_and_right, and_assoc, @or_comm (A ∧ F), or_assoc]

/-- `Py_ISSPACE`: the ASCII whitespace `PyLong_FromString` skips around the digits. -/
def ascii_space (c : Char) : Bool := c.toNat = 32 || (9 ≤ c.toNat && c.toNat ≤ 13)

/-- `Py_UNICODE_ISSPACE` above ASCII: the other code points `str.isspace()` accepts. -/
def unicode_space (c : Char) : Bool :=
  [0x85, 0xA0, 0x1680, 0x2028, 0x2029, 0x202F, 0x205F, 0x3000].any (fun code => code = c.toNat) ||
    (0x2000 ≤ c.toNat && c.toNat ≤ 0x200A)

/-- The first code points of the runs of ten decimal digits (general category Nd) of Unicode
    15.0, the character database of CPython 3.12. -/
def decimal_zeros : List Nat :=
  [0x30, 0x660, 0x6F0, 0x7C0, 0x966, 0x9E6, 0xA66, 0xAE6, 0xB66, 0xBE6, 0xC66, 0xCE6, 0xD66,
    0xDE6, 0xE50, 0xED0, 0xF20, 0x1040, 0x1090, 0x17E0, 0x1810, 0x1946, 0x19D0, 0x1A80, 0x1A90,
    0x1B50, 0x1BB0, 0x1C40, 0x1C50, 0xA620, 0xA8D0, 0xA900, 0xA9D0, 0xA9F0, 0xAA50, 0xABF0,
    0xFF10, 0x104A0, 0x10D30, 0x11066, 0x110F0, 0x11136, 0x111D0, 0x112F0, 0x11450, 0x114D0,
    0x11650, 0x116C0, 0x11730, 0x118E0, 0x11950, 0x11C50, 0x11D50, 0x11DA0, 0x11F50, 0x16A60,
    0x16AC0, 0x16B50, 0x1D7CE, 0x1D7D8, 0x1D7E2, 0x1D7EC, 0x1D7F6, 0x1E140, 0x1E2F0, 0x1E4F0,
    0x1E950, 0x1FBF0]

/-- `Py_UNICODE_TODECIMAL`: the value of a decimal digit. -/
def unicode_decimal (c : Char) : Option Nat :=
  (decimal_zeros.find? fun first => first ≤ c.toNat && c.toNat < first + 10).map (c.toNat - ·)

/-- `_PyUnicode_TransformDecimalAndSpaceToASCII`: code points below 127 stay, other whitespace
    becomes a space and other decimal digits their ASCII digit; anything else ends the text
    with a `?`, which no parse accepts. -/
def transform_decimal_and_space : List Char → List Char
  | [] => []
  | c :: cs =>
    if c.toNat < 127 then c :: transform_decimal_and_space cs
    else if unicode_space c then ' ' :: transform_decimal_and_space cs
    else match unicode_decimal c with
      | some digit => Char.ofNat ('0'.toNat + digit) :: transform_decimal_and_space cs
      | none => ['?']

/-- The digit loop of `PyLong_FromString` in base 10 after a digit, with the value `value` so
    far: digits, and an underscore only when a digit follows it. -/
def digits_after : List Char → Nat → Option Nat
  | [], value => some value
  | '_' :: c :: cs, value =>
    if c.isDigit then digits_after cs (value * 10 + (c.toNat - '0'.toNat)) else none
  | c :: cs, value =>
    if c.isDigit then digits_after cs (value * 10 + (c.toNat - '0'.toNat)) else none

/-- The digits of `PyLong_FromString` in base 10: a digit, then `digits_after`. -/
def digits_value : List Char → Option Nat
  | [] => none
  | c :: cs => if c.isDigit then digits_after cs (c.toNat - '0'.toNat) else none

/-- The text without the ASCII whitespace at its end. -/
def strip_end (chars : List Char) : List Char := (chars.reverse.dropWhile ascii_space).reverse

/-- `int(text)`, `none` standing for `ValueError`: the text through
    `_PyUnicode_TransformDecimalAndSpaceToASCII`, then `PyLong_FromString` in base 10, which skips
    leading whitespace, reads a sign, the digits and trailing whitespace, and must then be at the
    end. CPython's limit of 4300 digits (3.11 and later) is left out: no directory name is that
    long. -/
def py_int (text : String) : Option Int :=
  match (transform_decimal_and_space text.data).dropWhile ascii_space with
  | '-' :: rest => (digits_value (strip_end rest)).map fun v => -(v : Int)
  | '+' :: rest => (digits_value (strip_end rest)).map fun v => (v : Int)
  | rest => (digits_value (strip_end rest)).map fun v => (v : Int)

example : py_int "007" = some 7 := by decide
example : py_int " -1_000\n" = some (-1000) := by decide
example : py_int "1__0" = none := by decide
example : py_int "- 5" = none := by decide
example : py_int "\u0663" = some 3 := by decide

/-- `a < b` on two sequences: the first position where they differ decides, by `lt`, and a
    proper prefix comes first. -/
def seq_lt {α : Type} [DecidableEq α] (lt : α → α → Bool) : List α → List α → Bool
  | [], [] => false
  | [], _ :: _ => true
  | _ :: _, [] => false
  | a :: as, b :: bs => if a = b then seq_lt lt as bs else lt a b

/-- `a < b` on two strings: their code points compared as sequences. -/
def str_lt (a b : String) : Bool := seq_lt (fun c d => decide (c.toNat < d.toNat)) a.data b.data

section seq_lt

variable {α : Type} [DecidableEq α] {lt : α → α → Bool}

@[simp] theorem seq_lt_nil_right (l : List α) : seq_lt lt l [] = false := by
  cases l <;> rfl

@[simp] theorem seq_lt_append_left (l l₁ l₂ : List α) :
    seq_lt lt (l ++ l₁) (l ++ l₂) = seq_lt lt l₁ l₂ := by
  induction l with
  | nil => rfl
  | cons a l ih => simp [seq_lt, ih]

@[simp] theorem seq_lt_irrefl (l : List α) : seq_lt lt l l = false := by
  induction l with
  | nil => rfl
  | cons a l ih => simp [seq_lt, ih]

theorem seq_lt_trans (hirrefl : ∀ a, lt a a = false) (htrans : ∀ a b c, lt a b → lt b c → lt a c) :
    ∀ {l₁ l₂ l₃ : List α}, seq_lt lt l₁ l₂ → seq_lt lt l₂ l₃ → seq_lt lt l₁ l₃
  | _, _, [], _, h₂ => absurd h₂ (by simp)
  | [], _, _ :: _, _, _ => rfl
  | _ :: _, [], _ :: _, h₁, _ => absurd h₁ (by simp)
  | a :: as, b :: bs, c :: cs, h₁, h₂ => by
    simp only [seq_lt] at h₁ h₂ ⊢
    by_cases hab : a = b <;> by_cases hbc : b = c
    · subst hab hbc
      simp_all only [if_true]
      exact seq_lt_trans hirrefl htrans h₁ h₂
    · subst hab; simp_all
    · subst hbc; simp_all
    · simp only [hab, hbc, if_false] at h₁ h₂
      have hne : a ≠ c := by
        rintro rfl
        simpa [hirrefl] using htrans a b a h₁ h₂
      simpa [hne] using htrans a b c h₁ h₂

theorem seq_lt_total (htotal : ∀ a b, a ≠ b → lt a b ∨ lt b a) :
    ∀ {l₁ l₂ : List α}, l₁ ≠ l₂ → seq_lt lt l₁ l₂ ∨ seq_lt lt l₂ l₁
  | [], [], h => absurd rfl h
  | [], _ :: _, _ => .inl rfl
  | _ :: _, [], _ => .inr rfl
  | a :: as, b :: bs, h => by
    by_cases hab : a = b
    · subst hab
      simpa [seq_lt] using seq_lt_total htotal fun h' => h (by rw [h'])
    · simpa [seq_lt, hab, Ne.symm hab] using htotal a b hab

end seq_lt

@[simp] theorem str_lt_irrefl (a : String) : str_lt a a = false := seq_lt_irrefl a.data

theorem str_lt_trans {a b c : String} : str_lt a b → str_lt b c → str_lt a c :=
  seq_lt_trans (by simp) fun _ _ _ h h' => by simp only [decide_eq_true_eq] at h h' ⊢; omega

theorem str_lt_total {a b : String} (h : a ≠ b) : str_lt a b ∨ str_lt b a := by
  refine seq_lt_total (fun c d hcd => ?_) fun hab => h (String.ext hab)
  have : c.toNat ≠ d.toNat := fun h => hcd (by rw [← Char.ofNat_toNat c, h, Char.ofNat_toNat])
  simp only [decide_eq_true_eq]
  omega

theorem str_lt_asymm {a b : String} (h : str_lt a b) : str_lt b a = false := by
  cases h' : str_lt b a
  · rfl
  · simpa using str_lt_trans h h'

/-- Below `c`, every string is below `b` or `b` is below `c`. -/
theorem str_lt_or_lt {a c : String} (h : str_lt a c) (b : String) : str_lt a b ∨ str_lt b c := by
  by_cases hab : a = b
  · subst hab; exact .inr h
  · rcases str_lt_total hab with hab | hba
    · exact .inl hab
    · exact .inr (str_lt_trans hba h)

example : str_lt "10" "9" = true := by decide

end quixstreams
