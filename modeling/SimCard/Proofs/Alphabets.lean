import Mathlib.Data.List.Basic
import Mathlib.Data.List.GetD
import Mathlib.Data.List.TakeWhile
import SimCard.Proofs.Octets
import SimCard.Text.EightBit

/-!
# Texts in septets and in eight-bit units

The tables of a language are looked up in both directions.  A character may stand in a table more
than once, and two of the places hold no character, so neither direction simply undoes the other.
What holds is this.

* A character that has units is what its units stand for (`decodeUnits_charUnits`), and so is a
  whole text of such characters (`decodeUnits_encodeUnits`).
* Whatever units stand for has units itself (`hasUnits_of_mem_decodeUnits`): decoding never shows a
  placeholder.

Together they make decoded text a *normal form*: written again, it reads the same.  A field of
eight-bit units keeps the longest part of its text that it has room for (`longestPrefix_takeWithin`)
and is read as that part, with spaces for the characters that have no units
(`decodeEightBit_eightBitField_eq_map`); with just the room that the text needs, a text of
characters that have units is read as itself (`decodeEightBit_eightBitField`).
-/

set_option autoImplicit false

namespace SimCard

/-! ## The tables -/

namespace Language

variable {lang : Language} {c : Char} {septet : UInt8}

theorem length_lockingTable (lang : Language) : lang.lockingTable.length = 128 := by
  cases lang <;> rfl

theorem length_singleShiftTable (lang : Language) : lang.singleShiftTable.length = 128 := by
  cases lang <;> rfl

/-- The escape is the only place of a locking table that holds the placeholder. -/
theorem getD_lockingTable_eq_escapeMark_iff (lang : Language) :
    ∀ n < 128, lang.lockingTable.getD n ' ' = Text.escapeMark ↔ n = Text.escape.toNat := by
  cases lang <;> decide +kernel

theorem septet_and_mask (h : septet < 0x80) : septet &&& 0x7F = septet := by
  apply UInt8.toNat_inj.1
  rw [UInt8.toNat_and]
  exact Nat.and_two_pow_sub_one_of_lt_two_pow (n := 7) h

theorem septet_and_mask_lt (septet : UInt8) : (septet &&& 0x7F).toNat < 128 := by
  rw [UInt8.toNat_and]
  exact Nat.lt_succ_of_le Nat.and_le_right

/-- What a look-up in a table finds is a septet that leads back. -/
theorem getD_of_idxOf? {table : Text.Table} (hlen : table.length = 128) {n : Nat}
    (h : table.idxOf? c = some n) :
    n < 128 ∧ UInt8.ofNat n < 0x80 ∧ table.getD (UInt8.ofNat n &&& 0x7F).toNat ' ' = c := by
  obtain ⟨hn, hget, -⟩ := List.idxOf?_eq_some_iff.1 h
  have hlt : n < 128 := by rwa [hlen] at hn
  have hnat : (UInt8.ofNat n).toNat = n := UInt8.toNat_ofNat_of_lt' (Nat.lt_trans hlt (by decide))
  have hseptet : UInt8.ofNat n < 0x80 := by
    rw [UInt8.lt_iff_toNat_lt, hnat]
    exact hlt
  refine ⟨hlt, hseptet, ?_⟩
  rw [septet_and_mask hseptet, hnat, List.getD_eq_getElem _ _ hn, hget]

theorem lockingSeptet?_eq_some (h : lang.lockingSeptet? c = some septet) :
    septet < 0x80 ∧ septet ≠ Text.escape ∧ lang.lockingChar septet = c := by
  rw [lockingSeptet?] at h
  split at h
  · cases h
  · rename_i hmark
    obtain ⟨n, hn, rfl⟩ := Option.map_eq_some_iff.1 h
    obtain ⟨hlt, hseptet, hget⟩ := getD_of_idxOf? lang.length_lockingTable hn
    refine ⟨hseptet, ?_, hget⟩
    intro hescape
    rw [septet_and_mask hseptet, hescape,
      (getD_lockingTable_eq_escapeMark_iff lang _ (by decide)).2 rfl] at hget
    exact hmark hget.symm

theorem shiftSeptet?_eq_some (h : lang.shiftSeptet? c = some septet) :
    septet < 0x80 ∧ lang.shiftChar septet = c := by
  rw [shiftSeptet?] at h
  split at h
  · cases h
  · rename_i hmark
    obtain ⟨n, hn, rfl⟩ := Option.map_eq_some_iff.1 h
    obtain ⟨-, hseptet, hget⟩ := getD_of_idxOf? lang.length_singleShiftTable hn
    refine ⟨hseptet, ?_⟩
    rw [shiftChar, hget, if_neg hmark]

theorem isSome_lockingSeptet?_iff :
    (lang.lockingSeptet? c).isSome ↔ c ≠ Text.escapeMark ∧ c ∈ lang.lockingTable := by
  rw [lockingSeptet?]
  split
  · simp_all
  · simp_all [List.isSome_idxOf?]

theorem isSome_shiftSeptet?_iff :
    (lang.shiftSeptet? c).isSome ↔
      ¬ (c = Text.escapeMark ∨ c = Text.controlMark) ∧ c ∈ lang.singleShiftTable := by
  rw [shiftSeptet?]
  split
  · simp_all
  · simp_all [List.isSome_idxOf?]

/-- The second placeholder stands in no locking table. -/
theorem controlMark_notMem_lockingTable (lang : Language) :
    Text.controlMark ∉ lang.lockingTable := by
  cases lang <;> decide +kernel

/-- A place of a locking table other than the escape holds a character that can be looked up. -/
theorem isSome_lockingSeptet?_lockingChar (hseptet : septet < 0x80)
    (hescape : septet ≠ Text.escape) : (lang.lockingSeptet? (lang.lockingChar septet)).isSome := by
  have hlt : septet.toNat < 128 := hseptet
  have hmark : lang.lockingChar septet ≠ Text.escapeMark := by
    rw [lockingChar, septet_and_mask hseptet, Ne, getD_lockingTable_eq_escapeMark_iff lang _ hlt]
    exact fun h => hescape (UInt8.toNat_inj.1 h)
  refine isSome_lockingSeptet?_iff.2 ⟨hmark, ?_⟩
  rw [lockingChar, septet_and_mask hseptet,
    List.getD_eq_getElem _ _ (by rw [length_lockingTable]; exact hlt)]
  exact List.getElem_mem _

theorem isSome_lockingSeptet?_space (lang : Language) : (lang.lockingSeptet? ' ').isSome := by
  cases lang <;> decide

end Language

namespace Text

/-! ## Units -/

variable {lang shift : Language} {c : Char} {unit : UInt8} {units rest : List UInt8}

/-- **The character can be written** under a pair of tables. -/
def HasUnits (lang shift : Language) (c : Char) : Prop := charUnits lang shift c ≠ []

theorem hasUnits_of_lockingSeptet? (h : (lang.lockingSeptet? c).isSome) :
    HasUnits lang shift c := by
  obtain ⟨septet, hseptet⟩ := Option.isSome_iff_exists.1 h
  simp [HasUnits, charUnits, hseptet]

theorem hasUnits_of_shiftSeptet? (h : (shift.shiftSeptet? c).isSome) : HasUnits lang shift c := by
  obtain ⟨septet, hseptet⟩ := Option.isSome_iff_exists.1 h
  cases hlocking : lang.lockingSeptet? c <;> simp [HasUnits, charUnits, hseptet, hlocking]

/-- The two ways a character is written. -/
theorem charUnits_cases (h : HasUnits lang shift c) :
    (∃ septet, charUnits lang shift c = [septet] ∧ lang.lockingSeptet? c = some septet) ∨
      ∃ septet, charUnits lang shift c = [escape, septet] ∧ shift.shiftSeptet? c = some septet := by
  rw [HasUnits, charUnits] at h
  rw [charUnits]
  cases hlocking : lang.lockingSeptet? c with
  | some septet => exact .inl ⟨septet, by simp, rfl⟩
  | none =>
    cases hshift : shift.shiftSeptet? c with
    | some septet => exact .inr ⟨septet, by simp, rfl⟩
    | none => simp [hlocking, hshift] at h

/-- **A character of the tables**: it stands in the locking table of one language or in the single
shift table of the other, and is neither of the two placeholders. -/
def InTables (lang shift : Language) (c : Char) : Prop :=
  (c ∈ lang.lockingTable ∨ c ∈ shift.singleShiftTable) ∧ c ≠ '\ufffe' ∧ c ≠ '\uffff'

instance (lang shift : Language) : DecidablePred (InTables lang shift) :=
  fun _ => inferInstanceAs (Decidable (_ ∧ _))

/-- **The characters of the tables are those that can be written.** -/
theorem hasUnits_iff_inTables : HasUnits lang shift c ↔ InTables lang shift c := by
  constructor
  · intro h
    rcases charUnits_cases h with ⟨septet, -, hseptet⟩ | ⟨septet, -, hseptet⟩
    · obtain ⟨hescape, hmem⟩ :=
        Language.isSome_lockingSeptet?_iff.1 (Option.isSome_of_eq_some hseptet)
      refine ⟨.inl hmem, ?_, hescape⟩
      rintro rfl
      exact lang.controlMark_notMem_lockingTable hmem
    · obtain ⟨hmark, hmem⟩ :=
        Language.isSome_shiftSeptet?_iff.1 (Option.isSome_of_eq_some hseptet)
      exact ⟨.inr hmem, fun h => hmark (.inr h), fun h => hmark (.inl h)⟩
  · rintro ⟨hlocking | hshift, hcontrol, hescape⟩
    · exact hasUnits_of_lockingSeptet? (Language.isSome_lockingSeptet?_iff.2 ⟨hescape, hlocking⟩)
    · refine hasUnits_of_shiftSeptet? (Language.isSome_shiftSeptet?_iff.2 ⟨?_, hshift⟩)
      rintro (h | h)
      · exact hescape h
      · exact hcontrol h

/-- **The test for the common alphabet** goes by the tables, so it lets the placeholders pass, which
have no units. -/
theorem isStandardAlphabet_iff {text : List Char} :
    isStandardAlphabet text = true ↔
      ∀ c ∈ text, HasUnits .standard .standard c ∨ c = '\ufffe' ∨ c = '\uffff' := by
  rw [isStandardAlphabet, List.all_eq_true]
  refine forall₂_congr fun c _ => ?_
  rw [Bool.or_eq_true, List.contains_iff_mem, List.contains_iff_mem, hasUnits_iff_inTables]
  constructor
  · intro htables
    by_cases hcontrol : c = '\ufffe'
    · exact .inr (.inl hcontrol)
    · by_cases hescape : c = '\uffff'
      · exact .inr (.inr hescape)
      · exact .inl ⟨htables, hcontrol, hescape⟩
  · rintro (⟨htables, -⟩ | rfl | rfl)
    · exact htables
    · exact .inr (by decide +kernel)
    · exact .inl (by decide +kernel)

theorem decodeUnits_cons (h : unit ≠ escape) :
    decodeUnits lang shift (unit :: rest) =
      lang.lockingChar unit :: decodeUnits lang shift rest := by
  cases rest <;> simp [decodeUnits, h]

theorem decodeUnits_escape_cons :
    decodeUnits lang shift (escape :: unit :: rest) =
      shift.shiftChar unit :: decodeUnits lang shift rest := by
  simp [decodeUnits]

/-- **The units of a character** stand for it, whatever follows. -/
theorem decodeUnits_charUnits (h : HasUnits lang shift c) :
    decodeUnits lang shift (charUnits lang shift c ++ rest) = c :: decodeUnits lang shift rest := by
  obtain ⟨septet, hunits, hseptet⟩ | ⟨septet, hunits, hseptet⟩ := charUnits_cases h
  · obtain ⟨-, hescape, hchar⟩ := Language.lockingSeptet?_eq_some hseptet
    rw [hunits, List.singleton_append, decodeUnits_cons hescape, hchar]
  · obtain ⟨-, hchar⟩ := Language.shiftSeptet?_eq_some hseptet
    rw [hunits, List.cons_append, List.singleton_append, decodeUnits_escape_cons, hchar]

/-- The units of a text stand for it, whatever follows. -/
theorem decodeUnits_encodeUnits_append {text : List Char} (h : ∀ c ∈ text, HasUnits lang shift c)
    (rest : List UInt8) :
    decodeUnits lang shift (encodeUnits lang shift text ++ rest) =
      text ++ decodeUnits lang shift rest := by
  induction text with
  | nil => rfl
  | cons c text ih =>
    rw [encodeUnits, List.flatMap_cons, List.append_assoc, decodeUnits_charUnits (h c (by simp))]
    exact congrArg (c :: ·) (ih fun d hd => h d (by simp [hd]))

theorem decodeUnits_encodeUnits {text : List Char} (h : ∀ c ∈ text, HasUnits lang shift c) :
    decodeUnits lang shift (encodeUnits lang shift text) = text := by
  have hunits := decodeUnits_encodeUnits_append h []
  rwa [List.append_nil, decodeUnits, List.append_nil] at hunits

/-- Writing passes over the characters that are not in the tables. -/
theorem encodeUnits_filter (lang shift : Language) (text : List Char) :
    encodeUnits lang shift (text.filter (InTables lang shift ·)) = encodeUnits lang shift text := by
  induction text with
  | nil => rfl
  | cons c text ih =>
    rw [encodeUnits] at ih
    by_cases hc : InTables lang shift c
    · simp only [List.filter_cons, hc, decide_true, if_true, encodeUnits, List.flatMap_cons, ih]
    · have hunits : charUnits lang shift c = [] :=
        Decidable.not_not.1 (mt hasUnits_iff_inTables.1 hc)
      simp only [List.filter_cons, hc, decide_false, Bool.false_eq_true, if_false, encodeUnits,
        List.flatMap_cons, hunits, List.nil_append, ih]

/-- **The units of a text** stand for its characters that are in the tables. -/
theorem decodeUnits_encodeUnits_eq_filter (lang shift : Language) (text : List Char) :
    decodeUnits lang shift (encodeUnits lang shift text) =
      text.filter (InTables lang shift ·) := by
  rw [← encodeUnits_filter, decodeUnits_encodeUnits]
  intro c hc
  exact hasUnits_iff_inTables.2 (of_decide_eq_true (List.mem_filter.1 hc).2)

theorem lt_of_mem_charUnits (h : unit ∈ charUnits lang shift c) : unit < 0x80 := by
  obtain ⟨septet, hunits, hseptet⟩ | ⟨septet, hunits, hseptet⟩ :=
    charUnits_cases (List.ne_nil_of_mem h)
  · rw [hunits, List.mem_singleton] at h
    rw [h]
    exact (Language.lockingSeptet?_eq_some hseptet).1
  · rw [hunits, List.mem_cons, List.mem_singleton] at h
    rcases h with rfl | rfl
    · decide
    · exact (Language.shiftSeptet?_eq_some hseptet).1

theorem hasUnits_shiftChar (septet : UInt8) : HasUnits lang shift (shift.shiftChar septet) := by
  rw [Language.shiftChar]
  generalize hc : shift.singleShiftTable.getD (septet &&& 0x7F).toNat ' ' = c
  by_cases hmark : c = escapeMark ∨ c = controlMark
  · rw [if_pos hmark]
    exact hasUnits_of_lockingSeptet? lang.isSome_lockingSeptet?_space
  · rw [if_neg hmark]
    apply hasUnits_of_shiftSeptet?
    have hlt : (septet &&& 0x7F).toNat < shift.singleShiftTable.length := by
      rw [Language.length_singleShiftTable]
      exact Language.septet_and_mask_lt septet
    refine Language.isSome_shiftSeptet?_iff.2 ⟨hmark, ?_⟩
    rw [← hc, List.getD_eq_getElem _ _ hlt]
    exact List.getElem_mem hlt

/-- **What units stand for can be written again.** -/
theorem hasUnits_of_mem_decodeUnits (hunits : ∀ unit ∈ units, unit < 0x80)
    (h : c ∈ decodeUnits lang shift units) : HasUnits lang shift c := by
  fun_induction decodeUnits lang shift units with
  | case1 => cases h
  | case2 => cases h
  | case3 unit hescape =>
    obtain rfl := List.mem_singleton.1 h
    exact hasUnits_of_lockingSeptet?
      (Language.isSome_lockingSeptet?_lockingChar (hunits unit (by simp)) hescape)
  | case4 next rest ih =>
    rcases List.mem_cons.1 h with rfl | h
    · exact hasUnits_shiftChar next
    · exact ih (fun u hu => hunits u (by simp [hu])) h
  | case5 unit next rest hescape ih =>
    rcases List.mem_cons.1 h with rfl | h
    · exact hasUnits_of_lockingSeptet?
        (Language.isSome_lockingSeptet?_lockingChar (hunits unit (by simp)) hescape)
    · exact ih (fun u hu => hunits u (List.mem_cons_of_mem unit hu)) h

/-! ## Fields of eight-bit units -/

/-- **The longest initial part of a text that fits**: it fits, and no initial part that fits goes
beyond it. -/
structure LongestPrefix (Fits : List Char → Prop) (text part : List Char) : Prop where
  isPrefix : part <+: text
  fits : Fits part
  longest : ∀ other, other <+: text → Fits other → other <+: part

theorem LongestPrefix.unique {Fits : List Char → Prop} {text part other : List Char}
    (h : LongestPrefix Fits text part) (h' : LongestPrefix Fits text other) : part = other := by
  have hle := (h.longest other h'.isPrefix h'.fits).length_le
  exact (h'.longest part h.isPrefix h.fits).eq_of_length_le hle

/-- A text that fits is its own longest part. -/
theorem LongestPrefix.eq_self {Fits : List Char → Prop} {text part : List Char}
    (h : LongestPrefix Fits text part) (hfits : Fits text) : part = text :=
  h.isPrefix.eq_of_length_le (h.longest text List.prefix_rfl hfits).length_le

/-- Only what fits among the initial parts of the text matters. -/
theorem LongestPrefix.congr {Fits Fits' : List Char → Prop} {text part : List Char}
    (h : LongestPrefix Fits text part)
    (hiff : ∀ other, other <+: text → (Fits other ↔ Fits' other)) :
    LongestPrefix Fits' text part where
  isPrefix := h.isPrefix
  fits := (hiff part h.isPrefix).1 h.fits
  longest other hother hfits := h.longest other hother ((hiff other hother).2 hfits)

/-- What is taken of a text within a budget is the longest part whose units keep to the budget. -/
theorem longestPrefix_takeWithin {cost : Char → Nat} {units : Char → Octets}
    (hcost : ∀ c, cost c = (units c).length) (budget : Nat) (text : List Char) :
    LongestPrefix (fun part => (part.flatMap units).length ≤ budget) text
      (takeWithin cost budget text) := by
  induction text generalizing budget with
  | nil => exact ⟨List.nil_prefix, Nat.zero_le _, fun _ hother _ => hother⟩
  | cons c text ih =>
    have hlength : ∀ part : List Char,
        ((c :: part).flatMap units).length = cost c + (part.flatMap units).length := by
      intro part
      rw [List.flatMap_cons, List.length_append, hcost]
    rw [takeWithin]
    by_cases hfits : cost c ≤ budget
    · rw [if_pos hfits]
      obtain ⟨hinitial, hwithin, hlongest⟩ := ih (budget - cost c)
      refine ⟨List.cons_prefix_cons.2 ⟨rfl, hinitial⟩, ?_, ?_⟩
      · rw [hlength]
        omega
      · intro other hother hle
        cases other with
        | nil => exact List.nil_prefix
        | cons d other =>
          obtain ⟨rfl, hrest⟩ := List.cons_prefix_cons.1 hother
          rw [hlength] at hle
          exact List.cons_prefix_cons.2 ⟨rfl, hlongest other hrest (by omega)⟩
    · rw [if_neg hfits]
      refine ⟨List.nil_prefix, Nat.zero_le _, ?_⟩
      intro other hother hle
      cases other with
      | nil => exact List.nil_prefix
      | cons d other =>
        obtain ⟨rfl, -⟩ := List.cons_prefix_cons.1 hother
        rw [hlength] at hle
        omega

/-- A text is kept whole when it is within the budget. -/
theorem takeWithin_eq_self {cost : Char → Nat} {units : Char → Octets}
    (hcost : ∀ c, cost c = (units c).length) {budget : Nat} {text : List Char}
    (h : (text.flatMap units).length ≤ budget) : takeWithin cost budget text = text :=
  (longestPrefix_takeWithin hcost budget text).eq_self h

theorem length_fillTo {size : Nat} {octets : Octets} (h : octets.length ≤ size) :
    (fillTo size octets).length = size := by
  rw [fillTo, List.length_append, List.length_replicate]
  omega

/-- A field has the size that it is to have. -/
theorem length_eightBitField (size : Nat) (text : List Char) :
    (eightBitField size text).length = size :=
  length_fillTo (longestPrefix_takeWithin (fun _ => rfl) size text).fits

theorem eightBitUnits_eq (h : HasUnits .standard .standard c) :
    eightBitUnits c = charUnits .standard .standard c := by
  rw [eightBitUnits]
  split
  · rename_i hunits
    exact absurd hunits h
  · rfl

/-- **What a field of eight-bit units makes of a character**: a space, if it is not in the
tables. -/
def inEightBit (c : Char) : Char := if InTables .standard .standard c then c else ' '

theorem hasUnits_inEightBit (c : Char) : HasUnits .standard .standard (inEightBit c) := by
  rw [inEightBit]
  split
  · rename_i h
    exact hasUnits_iff_inTables.2 h
  · exact hasUnits_of_lockingSeptet? (Language.isSome_lockingSeptet?_space .standard)

/-- A character stays as it is just when it can be written. -/
theorem inEightBit_eq_self_iff : inEightBit c = c ↔ HasUnits .standard .standard c := by
  constructor
  · intro h
    have hunits := hasUnits_inEightBit c
    rwa [h] at hunits
  · intro h
    rw [inEightBit, if_pos (hasUnits_iff_inTables.1 h)]

theorem eightBitUnits_eq_charUnits (c : Char) :
    eightBitUnits c = charUnits .standard .standard (inEightBit c) := by
  by_cases h : InTables .standard .standard c
  · rw [inEightBit, if_pos h, eightBitUnits_eq (hasUnits_iff_inTables.2 h)]
  · have hunits : charUnits .standard .standard c = [] :=
      Decidable.not_not.1 (mt hasUnits_iff_inTables.1 h)
    rw [inEightBit, if_neg h, eightBitUnits, hunits]
    decide

theorem flatMap_eightBitUnits (text : List Char) :
    text.flatMap eightBitUnits = encodeUnits .standard .standard (text.map inEightBit) := by
  rw [encodeUnits, List.flatMap_map]
  exact List.flatMap_congr fun c _ => eightBitUnits_eq_charUnits c

/-- A space is made of the characters that stand in neither of the common tables, and of the two
placeholders that do stand there. -/
theorem inEightBit_eq (c : Char) :
    inEightBit c =
      if (c ∉ Language.standard.lockingTable ∧ c ∉ Language.standard.singleShiftTable) ∨
          c = '\ufffe' ∨ c = '\uffff' then ' '
      else c := by
  by_cases h : InTables .standard .standard c
  · rw [inEightBit, if_pos h, if_neg]
    rintro (⟨hlocking, hshift⟩ | hcontrol | hescape)
    · exact h.1.elim hlocking hshift
    · exact h.2.1 hcontrol
    · exact h.2.2 hescape
  · rw [inEightBit, if_neg h, if_pos]
    simpa only [InTables, not_and_or, not_or, ne_eq, not_not] using h

/-- **A whole unit** of a field: a septet, or the escape and a septet. -/
inductive IsUnit : Octets → Prop where
  | plain {septet : UInt8} (hlt : septet < 0x80) (hescape : septet ≠ escape) : IsUnit [septet]
  | escaped {septet : UInt8} (hlt : septet < 0x80) : IsUnit [escape, septet]

theorem isUnit_eightBitUnits (c : Char) : IsUnit (eightBitUnits c) := by
  rw [eightBitUnits_eq_charUnits]
  obtain ⟨septet, hunits, hseptet⟩ | ⟨septet, hunits, hseptet⟩ :=
    charUnits_cases (hasUnits_inEightBit c)
  · obtain ⟨hlt, hescape, -⟩ := Language.lockingSeptet?_eq_some hseptet
    rw [hunits]
    exact .plain hlt hescape
  · obtain ⟨hlt, -⟩ := Language.shiftSeptet?_eq_some hseptet
    rw [hunits]
    exact .escaped hlt

/-- **An extension character**: it has a septet in the common single shift table only. -/
def isExtension (c : Char) : Bool :=
  (Language.standard.lockingSeptet? c).isNone && (Language.standard.shiftSeptet? c).isSome

/-- The octets of a text in a field: one for each character, and one more for each extension
character. -/
def unitCount (part : List Char) : Nat := part.length + part.countP isExtension

/-- Of the characters that can be written, those that the locking table lacks. -/
theorem isExtension_iff (h : HasUnits .standard .standard c) :
    isExtension c = true ↔ c ∉ Language.standard.lockingTable := by
  have hescape : c ≠ escapeMark := (hasUnits_iff_inTables.1 h).2.2
  have hlocking := @Language.isSome_lockingSeptet?_iff .standard c
  rw [and_iff_right hescape] at hlocking
  rw [← hlocking, isExtension]
  rcases charUnits_cases h with ⟨septet, -, hseptet⟩ | ⟨septet, -, hseptet⟩ <;> simp [hseptet]

theorem length_eightBitUnits (c : Char) :
    (eightBitUnits c).length = if isExtension c then 2 else 1 := by
  rw [eightBitUnits, charUnits, isExtension]
  cases Language.standard.lockingSeptet? c <;> cases Language.standard.shiftSeptet? c <;> simp

theorem length_flatMap_eightBitUnits (part : List Char) :
    (part.flatMap eightBitUnits).length = unitCount part := by
  induction part with
  | nil => rfl
  | cons c part ih =>
    rw [unitCount] at ih
    rw [List.flatMap_cons, List.length_append, ih, length_eightBitUnits, unitCount,
      List.length_cons, List.countP_cons]
    split <;> omega

/-- What a field keeps of a text is the longest part that it has octets for. -/
theorem longestPrefix_unitCount (size : Nat) (text : List Char) :
    LongestPrefix (unitCount · ≤ size) text (takeWithin eightBitCost size text) :=
  (longestPrefix_takeWithin (fun _ => rfl) size text).congr fun part _ => by
    rw [length_flatMap_eightBitUnits]

theorem lt_of_mem_encodeUnits {text : List Char} (h : unit ∈ encodeUnits lang shift text) :
    unit < 0x80 := by
  obtain ⟨c, -, hunit⟩ := List.mem_flatMap.1 h
  exact lt_of_mem_charUnits hunit

/-- Filler ends the text of a field. -/
theorem decodeEightBit_fillTo {octets : Octets} (h : ∀ octet ∈ octets, octet < 0x80) (size : Nat) :
    decodeEightBit (fillTo size octets) = decodeUnits .standard .standard octets := by
  have hfiller : ∀ octet ∈ octets, (octet != filler) = true := by
    intro octet hoctet
    rw [bne_iff_ne]
    rintro rfl
    exact absurd (h _ hoctet) (by decide)
  have hend : (List.replicate (size - octets.length) filler).takeWhile (· != filler) = [] := by
    rw [List.takeWhile_replicate]
    rfl
  rw [decodeEightBit, fillTo, List.takeWhile_append_of_pos hfiller, hend, List.append_nil,
    List.filter_eq_self.2 (by simpa using h)]

/-- **A field is read as the part of the text that it holds**, with spaces for what is not in the
tables. -/
theorem decodeEightBit_eightBitField_eq_map (size : Nat) (text : List Char) :
    decodeEightBit (eightBitField size text) =
      (takeWithin eightBitCost size text).map inEightBit := by
  have hunits : ∀ c ∈ (takeWithin eightBitCost size text).map inEightBit,
      HasUnits .standard .standard c := by
    intro c hc
    obtain ⟨d, -, rfl⟩ := List.mem_map.1 hc
    exact hasUnits_inEightBit d
  rw [eightBitField, flatMap_eightBitUnits, decodeEightBit_fillTo fun _ => lt_of_mem_encodeUnits,
    decodeUnits_encodeUnits hunits]

theorem map_inEightBit_eq_self_iff {text : List Char} :
    text.map inEightBit = text ↔ ∀ c ∈ text, HasUnits .standard .standard c := by
  have hmap : text.map inEightBit = text.map id ↔ ∀ c ∈ text, inEightBit c = id c :=
    List.map_inj_left
  rw [List.map_id] at hmap
  exact hmap.trans (forall₂_congr fun _ _ => inEightBit_eq_self_iff)

theorem decodeEightBit_eightBitField_of_hasUnits {text : List Char}
    (h : ∀ c ∈ text, HasUnits .standard .standard c) (size : Nat) :
    decodeEightBit (eightBitField size text) = takeWithin eightBitCost size text := by
  have hkept := longestPrefix_takeWithin (fun _ => rfl : ∀ c, eightBitCost c = _) size text
  rw [decodeEightBit_eightBitField_eq_map,
    map_inEightBit_eq_self_iff.2 fun c hc => h c (hkept.isPrefix.subset hc)]

theorem takeWithin_eightBitLength (text : String) :
    takeWithin eightBitCost (eightBitLength text) text.toList = text.toList :=
  takeWithin_eq_self (fun _ => rfl) (Nat.le_refl _)

/-- **A field that a text just fills** is read as the text. -/
theorem decodeEightBit_eightBitField {text : String}
    (h : ∀ c ∈ text.toList, HasUnits .standard .standard c) :
    decodeEightBit (eightBitField (eightBitLength text) text.toList) = text.toList := by
  rw [decodeEightBit_eightBitField_of_hasUnits h, takeWithin_eightBitLength]

/-- **What a field holds can be written again.** -/
theorem hasUnits_of_mem_decodeEightBit {octets : Octets} (h : c ∈ decodeEightBit octets) :
    HasUnits .standard .standard c :=
  hasUnits_of_mem_decodeUnits (fun unit hunit => by simpa using (List.mem_filter.1 hunit).2) h

end Text

end SimCard
