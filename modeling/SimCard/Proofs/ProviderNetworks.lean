import SimCard.Proofs.CardSessions
import SimCard.Proofs.NetworkCodes
import SimCard.Proofs.WholeFiles

/-!
# The networks of the service provider

A card may list networks, besides the home network, where its provider is at home.  The list stands
behind two tags, each with a size, as entries of three octets; an entry may be unused, and what is
left of the file behind the list is filled up.

* `Provider.displayOctets` is the file that holds a list, written down without any reader.
* **The list is read in full** (`Provider.networksOfFile_displayOctets`): every code comes back in
  its place, except that a network of one digit has become one of two, and unused entries are gone.
* What is read decides what is shown: registered with a network of the list, the terminal shows the
  provider (`CardSession.provider_networks_are_read_in_full`).
-/

set_option autoImplicit false

namespace SimCard

/-- The code as it is read back: a network of one digit has a zero in front. -/
def NetworkCode.padded (code : NetworkCode) : NetworkCode :=
  if code.network.toList.length = 1 then { code with network := "0" ++ code.network } else code

theorem NetworkCode.ofOctets?_toOctets_eq_padded {code : NetworkCode}
    (h : code.isEncodable = true) : ofOctets? code.toOctets = some code.padded := by
  rw [ofOctets?_toOctets h, padded, zeroPadded]
  simp only [isEncodable, Bool.and_eq_true, decide_eq_true_eq] at h
  obtain ⟨⟨⟨-, hone, -⟩, -⟩, -⟩ := h
  by_cases hlength : code.network.toList.length = 1
  · rw [if_pos hlength, hlength, List.replicate_one, String.ofList_append, String.ofList_toList]
  · rw [if_neg hlength, Nat.sub_eq_zero_of_le (by omega), List.replicate_zero, List.nil_append,
      String.ofList_toList]

namespace Provider

variable {c c' c'' : Cursor} {entries : List (Option NetworkCode)}

/-! ## Lists as they are written -/

/-- An entry of the list: the code of a network, or nothing. -/
def entryOctets : Option NetworkCode → Octets
  | some code => code.toOctets
  | none => [0xFF, 0xFF, 0xFF]

/-- **The file that holds a list**: the list in its tag, within the tag that announces it. -/
def displayOctets (entries : List (Option NetworkCode)) : Octets :=
  [displayTag, UInt8.ofNat (3 * entries.length + 2), networksTag, UInt8.ofNat (3 * entries.length)]
    ++ entries.flatMap entryOctets

/-- The networks of a list, as they are read back. -/
def listed (entries : List (Option NetworkCode)) : List NetworkCode :=
  entries.filterMap fun entry => entry.map NetworkCode.padded

/-- Every code of the list fits its three octets. -/
def Encodable (entries : List (Option NetworkCode)) : Prop :=
  ∀ entry ∈ entries, entry.all NetworkCode.isEncodable = true

theorem length_entryOctets (entry : Option NetworkCode) : (entryOctets entry).length = 3 := by
  cases entry with
  | none => rfl
  | some code => rfl

theorem ofOctets?_entryOctets {entry : Option NetworkCode}
    (h : entry.all NetworkCode.isEncodable = true) :
    NetworkCode.ofOctets? (entryOctets entry) = entry.map NetworkCode.padded := by
  cases entry with
  | none => rfl
  | some code => exact NetworkCode.ofOctets?_toOctets_eq_padded h

/-! ## Reading a list -/

/-- **Entries are read one after the other**, those that are no code left out. -/
theorem yields_readNetworks (hencodable : Encodable entries) (hc : c.readIndex ≤ c.octets.length)
    (h : c.Takes (entries.flatMap entryOctets) c') :
    (readNetworks entries.length).Yields c (listed entries) c' := by
  induction entries generalizing c with
  | nil => simpa [readNetworks, listed, eq_comm] using h
  | cons entry entries ih =>
    obtain ⟨hfirst, hothers⟩ := List.forall_mem_cons.1 hencodable
    obtain ⟨c₁, hentry, hentries⟩ := Cursor.takes_append.1 (List.flatMap_cons ▸ h)
    have hcode := ofOctets?_entryOctets hfirst
    have hrest := ih hothers (hentry.within hc) hentries
    rw [List.length_cons, readNetworks]
    simp only [Step.yields_bind, NetworkCode.yields_read hc, Step.yields_pure]
    refine ⟨_, c₁, ⟨_, length_entryOctets entry, hentry, hcode⟩, _, c', hrest, ?_, rfl⟩
    cases entry with
    | none => rfl
    | some code => rfl

/-- What a tag and its size are followed by. -/
def readBehind (fuel : Nat) (tag length : UInt8) : Reader CardError (Option (List NetworkCode)) :=
  if tag = displayTag then readDisplay fuel
  else if tag = networksTag then do
    let networks ← readNetworks (length.toNat / 3)
    return some networks
  else return none

theorem yields_readDisplay_succ {fuel : Nat} {tag length : UInt8}
    {networks : Option (List NetworkCode)} (h : c.Takes [tag, length] c')
    (hbehind : (readBehind fuel tag length).Yields c' networks c'') :
    (readDisplay (fuel + 1)).Yields c networks c'' := by
  obtain ⟨c₁, htag, hlength⟩ := Cursor.takes_cons.1 h
  have hremaining : ¬ c.remaining < 2 := by
    rw [h.remaining_eq, List.length_cons, List.length_singleton]
    omega
  rw [readDisplay]
  simp only [Step.yields_bind, Step.yields_get]
  refine ⟨c, c, ⟨rfl, rfl⟩, ?_⟩
  rw [if_neg hremaining]
  simp only [Step.yields_bind, yields_liftM_card, Cursor.yields_readOctet]
  exact ⟨tag, c₁, htag, length, c', hlength, hbehind⟩

/-- **A list is read behind its two tags.** -/
theorem yields_readDisplay (hcount : entries.length ≤ 84) (hencodable : Encodable entries)
    (hc : c.readIndex ≤ c.octets.length) (h : c.Takes (displayOctets entries) c') (fuel : Nat) :
    (readDisplay (fuel + 2)).Yields c (some (listed entries)) c' := by
  obtain ⟨c₂, hhead, hentries⟩ := Cursor.takes_append.1 h
  obtain ⟨c₁, hannounced, hlist⟩ :=
    Cursor.takes_append.1 (show c.Takes ([_, _] ++ [_, _]) c₂ from hhead)
  have hsize : (UInt8.ofNat (3 * entries.length)).toNat / 3 = entries.length := by
    rw [UInt8.toNat_ofNat']
    omega
  refine yields_readDisplay_succ hannounced ?_
  rw [readBehind, if_pos rfl]
  refine yields_readDisplay_succ hlist ?_
  rw [readBehind, if_neg (by decide), if_pos rfl, hsize]
  simp only [Step.yields_bind, yields_liftM_card, Step.yields_pure]
  exact ⟨_, c', yields_readNetworks hencodable (hhead.within hc) hentries, rfl, rfl⟩

/-- **A list is read in full**, whatever stands behind it in the file. -/
theorem networksOfFile_displayOctets (hcount : entries.length ≤ 84)
    (hencodable : Encodable entries) (tail : Octets) :
    networksOfFile (displayOctets entries ++ tail) = .ok (some (listed entries)) := by
  have htakes := Cursor.takes_of_rest_eq
    (show (Cursor.ofOctets (displayOctets entries ++ tail)).rest = _ ++ tail from rfl)
  rw [networksOfFile, readFrom_eq_ok_iff]
  exact ⟨_, yields_readDisplay hcount hencodable (Nat.zero_le _) htakes _⟩

end Provider

namespace CardSession

variable {σ : Type}

/-- Registered with a network of the provider, the terminal shows the provider. -/
theorem showsProvider_decideDisplay {s : CardSession} {networks : List NetworkCode}
    {operator : NetworkCode} (hprovider : s.records.provider.isSome)
    (hoperator : s.operator = some operator)
    (hnetworks : s.records.providerNetworks = some networks) (hmem : operator ∈ networks) :
    s.decideDisplay.info.showsProvider = some true := by
  obtain ⟨provider, hprovider⟩ := Option.isSome_iff_exists.1 hprovider
  have hhome : AtHome s := ⟨operator, hoperator, .inr ⟨networks, hnetworks, hmem⟩⟩
  rw [decideDisplay, decides_iff.1 (.atHome hprovider hhome)]

/-- **The networks of the provider are read in full.**  If the file holds a list of networks, each a
code that fits or an unused entry, and whatever stands behind the list, then reading it succeeds and
keeps the list: every code in its place, a network of one digit as one of two.  From then on the
terminal shows the provider, if there is one, wherever it is registered with a network of the list,
be it already or later. -/
theorem provider_networks_are_read_in_full (access : FileAccess σ) (s : CardSession)
    {card card' : σ} {entries : List (Option NetworkCode)} (hcount : entries.length ≤ 84)
    (hencodable : Provider.Encodable entries) (tail : Octets)
    (hfile : loadWhole access FileId.providerDisplay card =
      (.ok (Provider.displayOctets entries ++ tail), card')) :
    ∃ s', readProviderNetworks access (s, card) =
        (.ok (some (Provider.listed entries)), s', card') ∧
      s'.records.providerNetworks = some (Provider.listed entries) ∧
      (s.records.provider.isSome → ∀ operator ∈ Provider.listed entries,
        (s.operator = some operator → s'.info.showsProvider = some true) ∧
        (s'.setOperator (some operator)).2.info.showsProvider = some true) := by
  have hread : CardFile.providerNetworks access card =
      (.ok (some (Provider.listed entries)), card') := by
    rw [CardFile.providerNetworks, Step.bind_apply, hfile]
    exact congrArg (·, card') (Provider.networksOfFile_displayOctets hcount hencodable _)
  refine ⟨keepProviderNetworks (some (Provider.listed entries)) s, ?_, rfl, ?_⟩
  · rw [readProviderNetworks_eq, learn, hread]
  · intro hprovider operator hmem
    exact ⟨fun hoperator => showsProvider_decideDisplay hprovider hoperator rfl hmem,
      showsProvider_decideDisplay hprovider rfl rfl hmem⟩

/-- A list of three networks and an unused entry, on a card that brings its file in small
stretches.  The terminal is registered with the network of one digit. -/
theorem provider_networks_are_read_in_full_halting :
    let entries : List (Option NetworkCode) :=
      [some ⟨"262", "02"⟩, none, some ⟨"310", "410"⟩, some ⟨"001", "1"⟩]
    let networks : List NetworkCode := [⟨"262", "02"⟩, ⟨"310", "410"⟩, ⟨"001", "01"⟩]
    let s : CardSession :=
      { application := .sim, records := { provider := some { condition := 2, name := "Home" } }
        operator := some ⟨"001", "01"⟩ }
    ∃ s' card', readProviderNetworks ((Channel.halting FileId.providerDisplay
        (Provider.displayOctets entries ++ List.replicate 5 0xFF)).access .sim) (s, 0) =
        (.ok (some networks), s', card') ∧
      s'.records.providerNetworks = some networks ∧ s'.info.showsProvider = some true := by
  intro entries networks s
  have hbrings := Channel.brings_halting FileId.providerDisplay Path.sim
    (Provider.displayOctets entries ++ List.replicate 5 0xFF)
  have hpath : Path.of? FileId.providerDisplay .sim = some Path.sim := rfl
  obtain ⟨card', hfile, -⟩ := hbrings.loadWhole_eq hpath (by decide) trivial
  have hencodable : Provider.Encodable entries := by
    rw [Provider.Encodable]
    decide +kernel
  obtain ⟨s', hread, hkept, hshown⟩ :=
    provider_networks_are_read_in_full _ s (by decide) hencodable _ hfile
  exact ⟨s', card', hread, hkept, (hshown rfl ⟨"001", "01"⟩ (by decide +kernel)).1 rfl⟩

end CardSession

end SimCard
