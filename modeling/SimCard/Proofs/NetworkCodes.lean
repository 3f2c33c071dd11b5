import SimCard.Number.NetworkCode
import SimCard.Proofs.Reading
import SimCard.Proofs.SemiOctets

/-!
# Network codes are read back

The three octets of a network code interleave the digits of two codes.  A code that fits them is
read back as it is, except that a network of one digit has become one of two
(`NetworkCode.ofOctets?_toOctets`).
-/

set_option autoImplicit false

namespace SimCard

namespace NetworkCode

variable {digits : List Char}

/-! ## Digits -/

/-- The value of a digit. -/
def digitValue (c : Char) : UInt8 := UInt8.ofNat (c.toNat - '0'.toNat)

theorem digitValue_of_isDigit {c : Char} (h : c.isDigit = true) :
    decimalValue? c = some (digitValue c) ∧ digitValue c < 0x0A ∧
      Number.halfDigit? (digitValue c) = some c := by
  have hrange : 48 ≤ c.toNat ∧ c.toNat ≤ 57 := by
    simpa [Char.isDigit, UInt32.le_iff_toNat_le] using h
  have key : ∀ n < 58, 48 ≤ n → digitValue (Char.ofNat n) < 0x0A ∧
      Number.halfDigit? (digitValue (Char.ofNat n)) = some (Char.ofNat n) := by
    decide
  have hdigit := key c.toNat (Nat.lt_succ_of_le hrange.2) hrange.1
  rw [Char.ofNat_toNat] at hdigit
  exact ⟨if_pos h, hdigit⟩

/-- What is no digit does not count. -/
theorem filterMap_decimalValue? (text : List Char) :
    text.filterMap decimalValue? = (text.filter Char.isDigit).map digitValue := by
  rw [← List.filterMap_eq_map, List.filterMap_filter]
  exact List.filterMap_congr fun _ _ => rfl

/-- Digits are read off their half octets, whatever filler stands behind. -/
theorem digitsOfHalves_append (h : ∀ c ∈ digits, c.isDigit = true) (count : Nat) :
    digitsOfHalves (digits.map digitValue ++ List.replicate count Number.fillerHalf) =
      String.ofList digits := by
  rw [digitsOfHalves, List.filterMap_append, List.filterMap_map]
  have hdigits : digits.filterMap ((fun half =>
      if half = Number.fillerHalf then none else Number.halfDigit? half) ∘ digitValue) =
      digits.filterMap some := by
    refine List.filterMap_congr fun c hc => ?_
    obtain ⟨-, hlt, hhalf⟩ := digitValue_of_isDigit (h c hc)
    have hne : digitValue c ≠ Number.fillerHalf := by
      intro heq
      rw [heq] at hlt
      exact absurd hlt (by decide)
    rw [Function.comp_apply, if_neg hne, hhalf]
  have hfiller : (List.replicate count Number.fillerHalf).filterMap (fun half =>
      if half = Number.fillerHalf then none else Number.halfDigit? half) = [] := by
    simp
  rw [hdigits, hfiller, List.filterMap_some, List.append_nil]

/-! ## Codes -/

/-- Half octets that are no filler in the first place are put back in order. -/
theorem ofOctets?_joinHalves {a b c d e f : UInt8} (ha : a < 0x0A) (hb : b < 0x10) (hc : c < 0x10)
    (hd : d < 0x10) (he : e < 0x10) (hf : f < 0x10) :
    ofOctets? [Number.joinHalves a b, Number.joinHalves c f, Number.joinHalves d e] =
      some { country := digitsOfHalves [a, b, c], network := digitsOfHalves [d, e, f] } := by
  obtain ⟨hlow₁, hhigh₁⟩ := Number.halves_joinHalves (Nat.lt_trans ha (by decide)) hb
  obtain ⟨hlow₂, hhigh₂⟩ := Number.halves_joinHalves hc hf
  obtain ⟨hlow₃, hhigh₃⟩ := Number.halves_joinHalves hd he
  have hused : Number.joinHalves a b ≠ 0xFF := by
    intro heq
    rw [heq] at hlow₁
    rw [← hlow₁] at ha
    exact absurd ha (by decide)
  simp only [ofOctets?, if_neg hused, hlow₁, hhigh₁, hlow₂, hhigh₂, hlow₃, hhigh₃]

/-- A text with zeros in front, up to a width. -/
def zeroPadded (width : Nat) (digits : List Char) : List Char :=
  List.replicate (width - digits.length) '0' ++ digits

theorem isDigit_of_mem_zeroPadded (h : ∀ c ∈ digits, c.isDigit = true) (width : Nat) :
    ∀ c ∈ zeroPadded width digits, c.isDigit = true := by
  intro c hc
  rcases List.mem_append.1 hc with hzero | hmem
  · rw [List.eq_of_mem_replicate hzero]
    rfl
  · exact h c hmem

theorem halves_eq_map {text : String} (h : ∀ c ∈ text.toList, c.isDigit = true) (width : Nat) :
    halves width text = (zeroPadded width text.toList).map digitValue := by
  rw [halves, filterMap_decimalValue?, List.filter_eq_self.2 h, List.length_map, zeroPadded,
    List.map_append, List.map_replicate]
  rfl

/-- The octets of digits, three for the country and two or three for the network. -/
theorem ofOctets?_of_halves {code : NetworkCode} {country network : List Char}
    (hcountry : halves 3 code.country = country.map digitValue)
    (hnetwork : halves 2 code.network = network.map digitValue)
    (hcountries : ∀ c ∈ country, c.isDigit = true) (hnetworks : ∀ c ∈ network, c.isDigit = true)
    (hthree : country.length = 3) (hshort : network.length = 2 ∨ network.length = 3) :
    ofOctets? code.toOctets =
      some { country := String.ofList country, network := String.ofList network } := by
  have hlt : ∀ c : Char, c.isDigit = true → digitValue c < 0x0A :=
    fun c hc => (digitValue_of_isDigit hc).2.1
  have hlt' : ∀ c : Char, c.isDigit = true → digitValue c < 0x10 :=
    fun c hc => Nat.lt_trans (hlt c hc) (by decide)
  have hfirst := digitsOfHalves_append hcountries 0
  have hsecond := digitsOfHalves_append hnetworks (3 - network.length)
  obtain ⟨x, y, z, rfl⟩ := List.length_eq_three.1 hthree
  rw [List.forall_mem_cons, List.forall_mem_cons, List.forall_mem_singleton] at hcountries
  obtain ⟨hx, hy, hz⟩ := hcountries
  rw [toOctets, hcountry, hnetwork, ← hfirst, ← hsecond]
  rcases hshort with htwo | hthree'
  · obtain ⟨u, v, rfl⟩ := List.length_eq_two.1 htwo
    rw [List.forall_mem_cons, List.forall_mem_singleton] at hnetworks
    obtain ⟨hu, hv⟩ := hnetworks
    exact ofOctets?_joinHalves (hlt x hx) (hlt' y hy) (hlt' z hz) (hlt' u hu) (hlt' v hv)
      (show Number.fillerHalf < 0x10 by decide)
  · obtain ⟨u, v, w, rfl⟩ := List.length_eq_three.1 hthree'
    rw [List.forall_mem_cons, List.forall_mem_cons, List.forall_mem_singleton] at hnetworks
    obtain ⟨hu, hv, hw⟩ := hnetworks
    exact ofOctets?_joinHalves (hlt x hx) (hlt' y hy) (hlt' z hz) (hlt' u hu) (hlt' v hv)
      (hlt' w hw)

/-- **A network code that fits its octets is read back**, a network of one digit with a zero in
front. -/
theorem ofOctets?_toOctets {code : NetworkCode} (h : code.isEncodable = true) :
    ofOctets? code.toOctets = some
      { country := code.country
        network := String.ofList (zeroPadded 2 code.network.toList) } := by
  simp only [isEncodable, Bool.and_eq_true, beq_iff_eq, decide_eq_true_eq, List.all_eq_true] at h
  obtain ⟨⟨⟨hthree, hone, hmost⟩, hcountry⟩, hnetwork⟩ := h
  have hpad : zeroPadded 3 code.country.toList = code.country.toList := by
    rw [zeroPadded, hthree]
    rfl
  have hlength : (zeroPadded 2 code.network.toList).length = 2 ∨
      (zeroPadded 2 code.network.toList).length = 3 := by
    rw [zeroPadded, List.length_append, List.length_replicate]
    omega
  have hoctets := ofOctets?_of_halves (hpad ▸ halves_eq_map hcountry 3) (halves_eq_map hnetwork 2)
    hcountry (isDigit_of_mem_zeroPadded hnetwork 2) hthree hlength
  rwa [String.ofList_toList] at hoctets

/-- What is read is three octets, and the first of them does not say that there is nothing. -/
theorem of_ofOctets?_eq_some {octets : Octets} {code : NetworkCode}
    (h : ofOctets? octets = some code) : octets.length = 3 ∧ octets.head? ≠ some 0xFF := by
  rw [ofOctets?.eq_def] at h
  split at h
  · split at h
    · cases h
    · rename_i hused
      exact ⟨rfl, fun hhead => hused (Option.some.inj hhead)⟩
  · cases h

theorem isNamed_iff {code : NetworkCode} {country network : String} :
    code.isNamed country network = true ↔ code = { country, network } := by
  obtain ⟨country', network'⟩ := code
  simp [isNamed]

/-- Reading a network code takes three octets. -/
theorem yields_read {c c' : Cursor} {code : Option NetworkCode}
    (hc : c.readIndex ≤ c.octets.length) :
    read.Yields c code c' ↔
      ∃ octets : Octets, octets.length = 3 ∧ c.Takes octets c' ∧ ofOctets? octets = code := by
  simp only [read, Step.yields_bind, Cursor.yields_readOctets hc, Step.yields_pure]
  constructor
  · rintro ⟨octets, c₁, ⟨hlength, htakes⟩, hcode, rfl⟩
    exact ⟨octets, hlength, htakes, hcode⟩
  · rintro ⟨octets, hlength, htakes, hcode⟩
    exact ⟨octets, c', ⟨hlength, htakes⟩, hcode, rfl⟩

end NetworkCode

end SimCard
