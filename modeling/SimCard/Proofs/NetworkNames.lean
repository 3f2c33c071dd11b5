import SimCard.Card.Simulated
import SimCard.Proofs.CardSessions
import SimCard.Proofs.NetworkCodes
import SimCard.Proofs.RecordWalks

/-!
# The names of networks, as the card has them

A session keeps the names and the rules of a card as two lists.  The list of names ends before the
first record that is not used, so that the number of a record is a position in it; the list of rules
leaves such records out, so that it is not.  What a network is called is decided from the lists
(`CardSession.networkName?`), but it can be told from the records of the card: `CardSession.RuleFor`
says which record of names the rules choose, and `CardSession.NameAt` what that record says.

Both speak of what the card answered, as it stands in a log of the exchanges (`Records.Shows`).
-/

set_option autoImplicit false

namespace SimCard

/-! ## Records in a log -/

namespace Records

variable {α β : Type} {application : Application} {file : UInt16} {path : String}
  {shape : RecordShape} {visit : Visit α} {init a : α} {log : List Exchange}

/-- **What a log shows of a file**: the octets that the card gave for a record. -/
def Shows (log : List Exchange) (file : UInt16) (number : Nat) (octets : Octets) : Prop :=
  ∃ exchange ∈ log, exchange.command.instruction = FileCommand.readRecordCode ∧
    exchange.command.file = file ∧ exchange.command.p1.toNat = number ∧
    exchange.data? = some octets

/-- The first command of a walk describes the file, and the others read its records. -/
theorem command_of_getElem? (hcommands : log.map (·.command) <+: wholeWalk file path shape)
    {k : Nat} {exchange : Exchange} (hk : log[k]? = some exchange) :
    k = 0 ∧ exchange.command = .describe file path ∨
      1 ≤ k ∧ k ≤ shape.count ∧ exchange.command = readCommand file path shape.size k := by
  have hcommand : (log.map (·.command))[k]? = some exchange.command := by
    rw [List.getElem?_map, hk, Option.map_some]
  obtain ⟨rest, hrest⟩ := hcommands
  have hlt : k < (log.map (·.command)).length := (List.getElem?_eq_some_iff.1 hcommand).1
  have hasked : (wholeWalk file path shape)[k]? = some exchange.command := by
    rw [← hrest, List.getElem?_append_left hlt, hcommand]
  rw [wholeWalk] at hasked
  cases k with
  | zero => exact .inl ⟨rfl, (Option.some.inj hasked).symm⟩
  | succ k =>
    rw [List.getElem?_cons_succ, readCommands, List.getElem?_map, Option.map_eq_some_iff] at hasked
    obtain ⟨number, hnumber, hread⟩ := hasked
    have hcount : k < shape.count := by
      simpa using (List.getElem?_eq_some_iff.1 hnumber).1
    rw [List.getElem?_range' hcount, Nat.one_mul, Nat.add_comm] at hnumber
    obtain rfl := Option.some.inj hnumber
    exact .inr ⟨Nat.succ_pos k, hcount, hread.symm⟩

/-- **A walk that succeeds has handed over the records that its log shows**, each in the place of
its number. -/
theorem VisitsInTurn.shows_iff (h : VisitsInTurn application file visit init (.ok a) log)
    (hfit : AnswersFit log) :
    ∃ handed, Ends visit (announcedBy log) 1 init handed (.ok a) ∧
      ∀ number octets, Shows log file number octets ↔
        1 ≤ number ∧ handed[number - 1]? = some octets := by
  obtain ⟨path, -, hcommands⟩ := h.commands
  obtain ⟨handed, hends, -, hanswered⟩ := h.handed
  -- nothing failed, so there is no answer beyond the records
  have hanswers : log.tail.map (·.data?) = handed.map some := by
    rcases hanswered hfit with heq | heq
    · exact heq
    · have hnone : none ∈ log.tail.map (·.data?) := by
        rw [heq]
        exact List.mem_append_right _ List.mem_cons_self
      obtain ⟨exchange, hmem, hdata⟩ := List.mem_map.1 hnone
      have hsome := h.succeeds a rfl exchange (List.mem_of_mem_tail hmem)
      rw [hdata] at hsome
      cases hsome
  have hrecord : ∀ k octets, (∃ exchange, log[k + 1]? = some exchange ∧
      exchange.data? = some octets) ↔ handed[k]? = some octets := by
    intro k octets
    have hk := congrArg (·[k]?) hanswers
    simp only [List.getElem?_map, List.getElem?_tail] at hk
    constructor
    · rintro ⟨exchange, hexchange, hdata⟩
      rw [hexchange, Option.map_some, hdata] at hk
      obtain ⟨octets', hoctets', heq⟩ := Option.map_eq_some_iff.1 hk.symm
      rw [hoctets', heq]
    · intro hoctets
      rw [hoctets, Option.map_some, Option.map_eq_some_iff] at hk
      exact hk
  refine ⟨handed, hends, fun number octets => ?_⟩
  have hcount := announcedBy_count_le log
  constructor
  · rintro ⟨exchange, hmem, hinstruction, -, hnumber, hdata⟩
    obtain ⟨k, hk⟩ := List.mem_iff_getElem?.1 hmem
    rcases command_of_getElem? hcommands hk with ⟨-, hdescribe⟩ | ⟨hpos, hle, hread⟩
    · rw [hdescribe] at hinstruction
      exact absurd (show FileCommand.describeCode = _ from hinstruction) (by decide)
    · have hnat : (UInt8.ofNat k).toNat = k := UInt8.toNat_ofNat_of_lt' (by change _ < 256; omega)
      rw [hread] at hnumber
      obtain rfl : k = number := hnat.symm.trans hnumber
      refine ⟨hpos, (hrecord (k - 1) octets).1 ⟨exchange, ?_, hdata⟩⟩
      rwa [Nat.sub_add_cancel hpos]
  · rintro ⟨hpos, hoctets⟩
    obtain ⟨exchange, hk, hdata⟩ := (hrecord (number - 1) octets).2 hoctets
    rw [Nat.sub_add_cancel hpos] at hk
    rcases command_of_getElem? hcommands hk with ⟨hzero, -⟩ | ⟨-, hle, hread⟩
    · omega
    · have hnat : (UInt8.ofNat number).toNat = number :=
        UInt8.toNat_ofNat_of_lt' (by change _ < 256; omega)
      refine ⟨exchange, List.mem_of_getElem? hk, ?_, ?_, ?_, hdata⟩
      · rw [hread]
        rfl
      · rw [hread]
        rfl
      · rw [hread]
        exact hnat

/-! ## Lists of records -/

variable {parse : Octets → Except CardError (Option β)} {found found' : List β}
  {records handed : List Octets} {number : Nat}

/-- Whether unused records end a walk or not, what goes on is made out record by record. -/
theorem Accepts.gathered {endsUnused : Bool}
    (h : Accepts (gather endsUnused fun _ _ => parse) shape number found records found') :
    ∃ entries : List (Option β), records.map parse = entries.map .ok ∧
      found' = found ++ entries.filterMap id ∧
      (endsUnused = true → entries = (entries.filterMap id).map some) := by
  induction h with
  | nil => exact ⟨[], rfl, (List.append_nil _).symm, fun _ => rfl⟩
  | @cons number found found₁ found₂ octets records hvisit _ ih =>
    obtain ⟨entries, hmap, rfl, hused⟩ := ih
    obtain ⟨entry, hparse, rfl, hgoesOn⟩ := gather_eq_ok_iff.1 hvisit
    refine ⟨entry :: entries, by rw [List.map_cons, List.map_cons, hmap, hparse], ?_, ?_⟩
    · rw [List.append_assoc]
      cases entry <;> rfl
    · rintro rfl
      obtain ⟨b, rfl⟩ : ∃ b, entry = some b := Option.isSome_iff_exists.1 (by simpa using hgoesOn)
      exact congrArg (some b :: ·) (hused rfl)

/-- A walk that the first unused record ends has found what the records before it hold. -/
theorem Ends.exists_map_parse
    (h : Ends (gather true fun _ _ => parse) shape number [] handed (.ok found)) :
    ∃ last, handed.map parse = found.map (fun b => .ok (some b)) ++ last ∧
      ∀ result ∈ last, result = .ok none := by
  cases h with
  | finished haccepts =>
    obtain ⟨entries, hmap, hfound, hused⟩ := haccepts.gathered
    rw [List.nil_append] at hfound
    refine ⟨[], ?_, by simp⟩
    rw [hmap, hused rfl, ← hfound, List.map_map, List.append_nil]
    rfl
  | @ended records found₁ _ octets haccepts hvisit =>
    obtain ⟨entries, hmap, hfound, hused⟩ := haccepts.gathered
    rw [List.nil_append] at hfound
    obtain ⟨entry, hparse, hsame, hgoesOn⟩ := gather_eq_ok_iff.1 hvisit
    obtain rfl : entry = none := by simpa using hgoesOn
    rw [Option.toList_none, List.append_nil] at hsame
    subst hsame
    refine ⟨[.ok none], ?_, by simp⟩
    rw [List.map_append, List.map_singleton, hparse, hmap, hused rfl, ← hfound, List.map_map]
    rfl

/-- **Where the first unused record ends a walk**, the number of a record is its place in the
list. -/
theorem Ends.getElem?_eq_some_iff
    (h : Ends (gather true fun _ _ => parse) shape number [] handed (.ok found)) (k : Nat) (b : β) :
    found[k]? = some b ↔ ∃ octets, handed[k]? = some octets ∧ parse octets = .ok (some b) := by
  obtain ⟨last, hmap, hlast⟩ := h.exists_map_parse
  rw [← Option.map_eq_some_iff, ← List.getElem?_map, hmap]
  rcases Nat.lt_or_ge k found.length with hlt | hge
  · rw [List.getElem?_append_left (by rwa [List.length_map]), List.getElem?_map]
    cases found[k]? <;> simp
  · rw [List.getElem?_append_right (by rwa [List.length_map]), List.getElem?_eq_none hge]
    constructor
    · intro hsome
      cases hsome
    · intro hsome
      cases hlast _ (List.mem_of_getElem? hsome)

/-- **Where unused records are passed over, the list has what the others hold**, in their order. -/
theorem Ends.eq_filterMap
    (h : Ends (gather false fun _ _ => parse) shape number [] handed (.ok found)) :
    found = handed.filterMap fun octets => (parse octets).toOption.join := by
  cases h with
  | finished haccepts =>
    obtain ⟨entries, hmap, hfound, -⟩ := haccepts.gathered
    have hentries : handed.map (fun octets => (parse octets).toOption.join) = entries := by
      have hjoin := congrArg (List.map fun result => result.toOption.join) hmap
      rw [List.map_map, List.map_map] at hjoin
      exact hjoin.trans (List.map_id entries)
    rw [hfound, List.nil_append, ← hentries, List.filterMap_map]
    rfl
  | ended _ hvisit => exact absurd hvisit (gather_ne_ended _ _ _ _ _)

end Records

/-! ## What the records hold -/

namespace OperatorName

/-- A record of names that is not used: it has no octets, or begins with `0xFF`. -/
def Unused (octets : Octets) : Prop := octets = [] ∨ octets.head? = some 0xFF

/-- **One step through a record**: it ends with its octets or with its tag, or one more field is
read. -/
theorem yields_readFields_succ {fuel : Nat} {found result : Option OperatorName}
    {c c' : Cursor} :
    (readFields (fuel + 1) found).Yields c result c' ↔
      c.remaining = 0 ∧ found = result ∧ c = c' ∨
        c.remaining ≠ 0 ∧ ∃ tag c₁, c.Takes [tag] c₁ ∧
          (tag = 0xFF ∧ found = result ∧ c₁ = c' ∨
            tag ≠ 0xFF ∧ ∃ names c₂, (readField (found.getD {}) tag).Yields c₁ names c₂ ∧
              (readFields fuel (some names)).Yields c₂ result c') := by
  rw [readFields, Step.yields_bind]
  constructor
  · rintro ⟨_, _, hget, h⟩
    obtain ⟨rfl, rfl⟩ := Step.yields_get.1 hget
    split at h
    · rename_i hremaining
      exact .inl ⟨hremaining, Step.yields_pure.1 h⟩
    · rename_i hremaining
      obtain ⟨tag, c₁, htag, h⟩ := Step.yields_bind.1 h
      refine .inr ⟨hremaining, tag, c₁, Cursor.yields_readOctet.1 (yields_liftM_card.1 htag), ?_⟩
      split at h
      · rename_i hend
        exact .inl ⟨hend, Step.yields_pure.1 h⟩
      · rename_i hend
        exact .inr ⟨hend, Step.yields_bind.1 h⟩
  · intro h
    refine ⟨c, c, Step.yields_get.2 ⟨rfl, rfl⟩, ?_⟩
    rcases h with ⟨hremaining, h⟩ | ⟨hremaining, tag, c₁, htag, h⟩
    · rw [if_pos hremaining]
      exact Step.yields_pure.2 h
    · rw [if_neg hremaining]
      refine Step.yields_bind.2 ⟨tag, c₁, yields_liftM_card.2 (Cursor.yields_readOctet.2 htag), ?_⟩
      rcases h with ⟨hend, h⟩ | ⟨hend, h⟩
      · rw [if_pos hend]
        exact Step.yields_pure.2 h
      · rw [if_neg hend]
        exact Step.yields_bind.2 h

/-- Once a field has been found, the record is a used one. -/
theorem isSome_of_yields_readFields {fuel : Nat} {names : OperatorName}
    {result : Option OperatorName} {c c' : Cursor}
    (h : (readFields fuel (some names)).Yields c result c') : result.isSome := by
  induction fuel generalizing names c with
  | zero =>
    obtain ⟨rfl, -⟩ := Step.yields_pure.1 h
    rfl
  | succ fuel ih =>
    rcases yields_readFields_succ.1 h with
      ⟨-, rfl, -⟩ | ⟨-, tag, c₁, -, ⟨-, rfl, -⟩ | ⟨-, names', c₂, -, h⟩⟩
    · rfl
    · rfl
    · exact ih h

theorem ofRecord_eq_none_iff {octets : Octets} : ofRecord octets = .ok none ↔ Unused octets := by
  rw [ofRecord, readFrom_eq_ok_iff, Unused]
  constructor
  · rintro ⟨c', h⟩
    rcases yields_readFields_succ.1 h with
      ⟨hremaining, -⟩ | ⟨-, tag, c₁, htag, ⟨rfl, -⟩ | ⟨-, names, c₂, -, h⟩⟩
    · exact .inl (List.length_eq_zero_iff.1 hremaining)
    · obtain ⟨⟨tail, htail⟩, -⟩ := htag
      exact .inr (congrArg List.head? htail).symm
    · cases isSome_of_yields_readFields h
  · rintro (rfl | hhead)
    · exact ⟨_, yields_readFields_succ.2 (.inl ⟨rfl, rfl, rfl⟩)⟩
    · obtain ⟨tail, rfl⟩ := List.head?_eq_some_iff.1 hhead
      have htakes : (Cursor.ofOctets (0xFF :: tail)).Takes [0xFF]
          ((Cursor.ofOctets (0xFF :: tail)).advance 1) :=
        ⟨⟨tail, rfl⟩, rfl⟩
      exact ⟨_, yields_readFields_succ.2
        (.inr ⟨Nat.succ_ne_zero _, 0xFF, _, htakes, .inl ⟨rfl, rfl, rfl⟩⟩)⟩

end OperatorName

namespace NameRule

/-- **A rule is read off its octets**: the network, the first and the last area, and the record of
the name; what follows does not matter. -/
theorem ofRecord_eq_some_iff {octets : Octets} {rule : NameRule} :
    ofRecord octets = .ok (some rule) ↔
      ∃ code tail : Octets, octets = code ++ word16Octets rule.firstArea ++
        word16Octets rule.lastArea ++ rule.name :: tail ∧
        NetworkCode.ofOctets? code = some rule.network := by
  rw [ofRecord, readFrom_eq_ok_iff]
  have hstart : (Cursor.ofOctets octets).readIndex ≤ (Cursor.ofOctets octets).octets.length :=
    Nat.zero_le _
  simp only [Step.yields_bind, yields_liftM_card, NetworkCode.yields_read hstart]
  constructor
  · rintro ⟨c', _, c₁, ⟨code, -, hcode, rfl⟩, h⟩
    cases hnetwork : NetworkCode.ofOctets? code with
    | none =>
      rw [hnetwork] at h
      cases (Step.yields_pure.1 h).1
    | some network =>
      rw [hnetwork] at h
      simp only [Step.yields_bind, yields_liftM_card, Cursor.yields_readWord16,
        Cursor.yields_readOctet, Step.yields_pure] at h
      obtain ⟨first, c₂, hfirst, last, c₃, hlast, name, c₄, hname, hrule, -⟩ := h
      obtain rfl := Option.some.inj hrule
      refine ⟨code, c₄.rest, ?_, hnetwork⟩
      exact (((hcode.append hfirst).append hlast).append hname).rest_eq.trans (by simp)
  · rintro ⟨code, tail, hoctets, hcode⟩
    obtain ⟨c₄, htakes⟩ : ∃ c₄, (Cursor.ofOctets octets).Takes (code ++
        word16Octets rule.firstArea ++ word16Octets rule.lastArea ++ [rule.name]) c₄ :=
      ⟨_, ⟨tail, (show _ = octets by simpa using hoctets.symm)⟩, rfl⟩
    simp only [Cursor.takes_append] at htakes
    obtain ⟨c₃, ⟨c₂, ⟨c₁, hnetwork, hfirst⟩, hlast⟩, hname⟩ := htakes
    refine ⟨c₄, some rule.network, c₁,
      ⟨code, (NetworkCode.of_ofOctets?_eq_some hcode).1, hnetwork, hcode⟩, ?_⟩
    simp only [Step.yields_bind, yields_liftM_card, Cursor.yields_readWord16,
      Cursor.yields_readOctet, Step.yields_pure]
    exact ⟨_, c₂, hfirst, _, c₃, hlast, _, _, hname, rfl, rfl⟩

/-- **The rule in a record applies** to a network in an area: it is for that network, in all areas
or in a range that has this one, and it says which record has the name. -/
def Applies (octets : Octets) (country network : String) (area : UInt16) (name : UInt8) : Prop :=
  ∃ (code tail : Octets) (first last : UInt16),
    octets = code ++ word16Octets first ++ word16Octets last ++ name :: tail ∧
    code.head? ≠ some 0xFF ∧ NetworkCode.ofOctets? code = some { country, network } ∧
    (first = 0 ∧ last = 0xFFFE ∨ first ≤ area ∧ area ≤ last)

theorem covers_iff {rule : NameRule} {area : UInt16} :
    rule.covers area = true ↔ rule.firstArea = 0 ∧ rule.lastArea = 0xFFFE ∨
      rule.firstArea ≤ area ∧ area ≤ rule.lastArea := by
  simp [covers]

theorem applies_iff {octets : Octets} {country network : String} {area : UInt16} {name : UInt8} :
    Applies octets country network area name ↔ ∃ rule, ofRecord octets = .ok (some rule) ∧
      (rule.network.isNamed country network && rule.covers area) = true ∧ rule.name = name := by
  simp only [Bool.and_eq_true, NetworkCode.isNamed_iff, covers_iff]
  constructor
  · rintro ⟨code, tail, first, last, hoctets, -, hcode, hrange⟩
    refine ⟨{ network := { country, network }, firstArea := first, lastArea := last, name },
      ofRecord_eq_some_iff.2 ⟨code, tail, hoctets, hcode⟩, ⟨rfl, hrange⟩, rfl⟩
  · rintro ⟨rule, hrule, ⟨hnetwork, hrange⟩, rfl⟩
    obtain ⟨code, tail, hoctets, hcode⟩ := ofRecord_eq_some_iff.1 hrule
    refine ⟨code, tail, rule.firstArea, rule.lastArea, hoctets,
      (NetworkCode.of_ofOctets?_eq_some hcode).2, ?_, hrange⟩
    rw [hcode, hnetwork]

/-- The rule in a record, if there is one that can be made out. -/
def ofRecord? (octets : Octets) : Option NameRule := (ofRecord octets).toOption.join

theorem ofRecord?_eq_some_iff {octets : Octets} {rule : NameRule} :
    ofRecord? octets = some rule ↔ ofRecord octets = .ok (some rule) := by
  rw [ofRecord?]
  cases ofRecord octets with
  | error error => simp [Except.toOption]
  | ok entry => simp [Except.toOption]

theorem any_ofRecord?_iff {octets : Octets} {country network : String} {area : UInt16} :
    ((ofRecord? octets).any fun rule => rule.network.isNamed country network && rule.covers area) =
      true ↔ ∃ name, Applies octets country network area name := by
  simp only [Option.any_eq_true, ofRecord?_eq_some_iff, applies_iff]
  constructor
  · rintro ⟨rule, hrule, hmatch⟩
    exact ⟨rule.name, rule, hrule, hmatch, rfl⟩
  · rintro ⟨_, rule, hrule, hmatch, -⟩
    exact ⟨rule, hrule, hmatch⟩

/-- **The rule that is found** among those of some records is the first one that applies. -/
theorem find?_filterMap_iff {records : List Octets} {country network : String} {area : UInt16}
    {name : UInt8} :
    (∃ rule, (records.filterMap ofRecord?).find? (fun rule =>
        rule.network.isNamed country network && rule.covers area) = some rule ∧
        rule.name = name) ↔
      ∃ (k : Nat) (octets : Octets), records[k]? = some octets ∧
        Applies octets country network area name ∧
        ∀ (j : Nat) octets' name', j < k → records[j]? = some octets' →
          ¬ Applies octets' country network area name' := by
  simp only [List.find?_filterMap, Option.bind_eq_some_iff, List.find?_eq_some_iff_getElem,
    Bool.not_eq_true', ← Bool.not_eq_true, any_ofRecord?_iff]
  constructor
  · rintro ⟨rule, ⟨octets, ⟨⟨_, happlies⟩, k, hk, rfl, hfirst⟩, hrule⟩, rfl⟩
    refine ⟨k, _, List.getElem?_eq_getElem hk, ?_, ?_⟩
    · obtain ⟨rule', hrule', hmatch, -⟩ := applies_iff.1 happlies
      rw [ofRecord?_eq_some_iff, hrule'] at hrule
      obtain rfl : rule' = rule := by simpa using hrule
      exact applies_iff.2 ⟨rule', hrule', hmatch, rfl⟩
    · intro j octets' name' hj hoctets' happlies'
      obtain ⟨_, rfl⟩ := List.getElem?_eq_some_iff.1 hoctets'
      exact hfirst j hj ⟨name', happlies'⟩
  · rintro ⟨k, octets, hk, happlies, hfirst⟩
    obtain ⟨hlt, rfl⟩ := List.getElem?_eq_some_iff.1 hk
    obtain ⟨rule, hrule, -, hname⟩ := applies_iff.1 happlies
    refine ⟨rule, ⟨_, ⟨⟨name, happlies⟩, k, hlt, rfl, ?_⟩, ofRecord?_eq_some_iff.2 hrule⟩, hname⟩
    rintro j hj ⟨name', happlies'⟩
    exact hfirst j _ name' hj (List.getElem?_eq_getElem (by omega)) happlies'

end NameRule

/-! ## What a network is called -/

namespace CardSession

variable {σ : Type} {channel : Channel σ} {application : Application} {s s' : CardSession}
  {card card' : σ} {log : List Exchange} {country network : String} {area : UInt16}

/-- **The record of names that the rules choose** for a network in an area, by what a log shows of
them: that of the first rule which applies. -/
def RuleFor (log : List Exchange) (country network : String) (area : UInt16) (name : UInt8) :
    Prop :=
  ∃ number octets, Records.Shows log FileId.nameRules number octets ∧
    NameRule.Applies octets country network area name ∧
    ∀ earlier octets' name', earlier < number → Records.Shows log FileId.nameRules earlier octets' →
      ¬ NameRule.Applies octets' country network area name'

/-- **What a record of names says**, by what a log shows of them, if no record up to it is
unused. -/
def NameAt (log : List Exchange) (number : Nat) (name : OperatorName) : Prop :=
  (∃ octets, Records.Shows log FileId.networkNames number octets ∧
      OperatorName.ofRecord octets = .ok (some name)) ∧
    ∀ earlier octets, earlier ≤ number → Records.Shows log FileId.networkNames earlier octets →
      ¬ OperatorName.Unused octets

/-- What a reader that succeeds has read, and what the session keeps of it. -/
theorem learn_eq_ok {α : Type} {reader : Step (CardSession × σ) CardError α}
    {read : Step σ CardError α} {keep : α → CardSession → CardSession} {a : α}
    (hreader : reader = learn read keep) (h : reader (s, card) = (.ok a, s', card')) :
    read card = (.ok a, card') ∧ s' = keep a s := by
  rw [hreader, learn] at h
  split at h
  · rename_i a' card₁ hread
    obtain ⟨rfl, rfl, rfl⟩ : a' = a ∧ keep a' s = s' ∧ card₁ = card' := by simpa using h
    exact ⟨hread, rfl⟩
  · simp at h

/-- The names that were read, by their numbers. -/
theorem getElem?_names_iff {names : List OperatorName}
    (h : readNames (channel.recorded.access application) (s, card, []) =
      (.ok names, s', card', log))
    (hfit : Records.AnswersFit log)
    (number : Nat) (name : OperatorName) :
    1 ≤ number ∧ names[number - 1]? = some name ↔ NameAt log number name := by
  obtain ⟨hread, -⟩ := learn_eq_ok (readNames_eq _) h
  rw [CardFile.names_eq_walk] at hread
  have hturn := Records.visitsInTurn_walk channel application FileId.networkNames
    (Records.gather true fun _ _ => OperatorName.ofRecord) [] card
  rw [hread] at hturn
  obtain ⟨handed, hends, hshows⟩ := hturn.shows_iff hfit
  constructor
  · rintro ⟨hpos, hname⟩
    obtain ⟨octets, hoctets, hparse⟩ := (hends.getElem?_eq_some_iff _ _).1 hname
    refine ⟨⟨octets, (hshows number octets).2 ⟨hpos, hoctets⟩, hparse⟩, ?_⟩
    intro earlier octets' hle hshown hunused
    obtain ⟨-, hoctets'⟩ := (hshows earlier octets').1 hshown
    have hlt := (List.getElem?_eq_some_iff.1 hname).1
    -- the list reaches up to the number, so it has a name for every record before it
    have hearlier := List.getElem?_eq_getElem (show earlier - 1 < names.length by omega)
    obtain ⟨octets'', hoctets'', hused⟩ := (hends.getElem?_eq_some_iff _ _).1 hearlier
    obtain rfl := Option.some.inj (hoctets'.symm.trans hoctets'')
    cases (OperatorName.ofRecord_eq_none_iff.2 hunused).symm.trans hused
  · rintro ⟨⟨octets, hshown, hparse⟩, -⟩
    obtain ⟨hpos, hoctets⟩ := (hshows number octets).1 hshown
    exact ⟨hpos, (hends.getElem?_eq_some_iff _ _).2 ⟨octets, hoctets, hparse⟩⟩

/-- The rule that is found among those that were read. -/
theorem find?_rules_iff {rules : List NameRule}
    (h : readRules (channel.recorded.access application) (s, card, []) =
      (.ok rules, s', card', log))
    (hfit : Records.AnswersFit log)
    (name : UInt8) :
    (∃ rule, rules.find? (fun rule => rule.network.isNamed country network && rule.covers area) =
      some rule ∧ rule.name = name) ↔ RuleFor log country network area name := by
  obtain ⟨hread, -⟩ := learn_eq_ok (readRules_eq _) h
  rw [CardFile.rules_eq_walk] at hread
  have hturn := Records.visitsInTurn_walk channel application FileId.nameRules
    (Records.gather false fun _ _ => NameRule.ofRecord) [] card
  rw [hread] at hturn
  obtain ⟨handed, hends, hshows⟩ := hturn.shows_iff hfit
  rw [hends.eq_filterMap]
  refine NameRule.find?_filterMap_iff.trans ?_
  constructor
  · rintro ⟨k, octets, hk, happlies, hfirst⟩
    refine ⟨k + 1, octets, (hshows _ _).2 ⟨Nat.succ_pos k, hk⟩, happlies, ?_⟩
    intro earlier octets' name' hearlier hshown
    obtain ⟨hpos, hoctets'⟩ := (hshows _ _).1 hshown
    exact hfirst (earlier - 1) octets' name' (by omega) hoctets'
  · rintro ⟨number, octets, hshown, happlies, hfirst⟩
    obtain ⟨hpos, hoctets⟩ := (hshows _ _).1 hshown
    refine ⟨number - 1, octets, hoctets, happlies, ?_⟩
    intro j octets' name' hj hoctets'
    exact hfirst (j + 1) octets' name' (by omega) ((hshows _ _).2 ⟨Nat.succ_pos j, hoctets'⟩)

/-- With rules, a name comes from the record that the first rule to apply chooses. -/
theorem networkName?_of_rules {session : CardSession} {names : List OperatorName}
    {rules : List NameRule} (hnames : session.records.names = some names)
    (hrules : session.records.rules = some rules) (name : OperatorName) :
    session.networkName? country network area = some name ↔
      ∃ id, (∃ rule, rules.find? (fun rule =>
          rule.network.isNamed country network && rule.covers area) = some rule ∧ rule.name = id) ∧
        id ≠ 0 ∧ 1 ≤ id.toNat ∧ names[id.toNat - 1]? = some name := by
  have hpos : ∀ id : UInt8, id ≠ 0 → 1 ≤ id.toNat := by
    intro id hne
    have hzero : id.toNat ≠ 0 := fun hzero => hne (UInt8.toNat_inj.1 hzero)
    omega
  simp only [networkName?, hnames, hrules, Option.bind_eq_bind, Option.bind_some,
    Option.bind_eq_some_iff]
  constructor
  · rintro ⟨rule, hfind, hname⟩
    split at hname
    · cases hname
    · rename_i hne
      exact ⟨rule.name, ⟨rule, hfind, rfl⟩, hne, hpos _ hne, hname⟩
  · rintro ⟨_, ⟨rule, hfind, rfl⟩, hne, -, hname⟩
    exact ⟨rule, hfind, by rwa [if_neg hne]⟩

/-- Without rules, the first name is that of the home network, and there are no others. -/
theorem networkName?_of_no_rules {session : CardSession} {names : List OperatorName}
    (hnames : session.records.names = some names) (hrules : session.records.rules = none)
    (name : OperatorName) :
    session.networkName? country network area = some name ↔
      session.info.country = some country ∧ session.info.network = some network ∧
        names[0]? = some name := by
  cases hcountry : session.info.country with
  | none => simp [networkName?, hnames, hrules, home?, hcountry]
  | some country' =>
    cases hnetwork : session.info.network with
    | none => simp [networkName?, hnames, hrules, home?, hcountry, hnetwork]
    | some network' =>
      have hhome : session.home? = some { country := country', network := network' } := by
        rw [home?, hcountry, hnetwork]
      simp only [networkName?, hnames, hrules, hhome, Option.bind_eq_bind, Option.bind_some,
        NetworkCode.isNamed_iff, NetworkCode.mk.injEq, Option.some.injEq]
      split
      · rename_i hnamed
        simp [hnamed, List.head?_eq_getElem?]
      · rename_i hnamed
        simp only [reduceCtorEq, false_iff]
        exact fun h => hnamed ⟨h.1, h.2.1⟩

/-- **What a network is called can be told from the records of the card.**  Let names have been read
from a card, and let a session still have them.  If it also has rules that were read, the first rule
to apply chooses the record of the name: the network is called what that record says, provided that
one is chosen and none up to it is unused, and otherwise nothing.  If it has no rules, the first
record is for the home network alone. -/
theorem network_name_is_that_of_the_card (channel : Channel σ) (application : Application)
    {s s₁ session : CardSession} {card card₁ : σ} {names : List OperatorName}
    {nameLog : List Exchange}
    (hnames : readNames (channel.recorded.access application) (s, card, []) =
      (.ok names, s₁, card₁, nameLog))
    (hfit : Records.AnswersFit nameLog) (hsame : Part.names.Same s₁ session)
    (country network : String) (area : UInt16) (name : OperatorName) :
    (∀ {t t₁ : CardSession} {card' card₁' : σ} {rules : List NameRule} {ruleLog : List Exchange},
      readRules (channel.recorded.access application) (t, card', []) =
          (.ok rules, t₁, card₁', ruleLog) →
        Records.AnswersFit ruleLog → Part.rules.Same t₁ session →
        (session.networkName? country network area = some name ↔
          ∃ id, RuleFor ruleLog country network area id ∧ id ≠ 0 ∧
            NameAt nameLog id.toNat name)) ∧
      (session.records.rules = none →
        (session.networkName? country network area = some name ↔
          session.info.country = some country ∧ session.info.network = some network ∧
            NameAt nameLog 1 name)) := by
  have hkept : session.records.names = some names := by
    obtain ⟨-, rfl⟩ := learn_eq_ok (readNames_eq _) hnames
    exact hsame.symm
  constructor
  · intro t t₁ card' card₁' rules ruleLog hrules hfit' hsame'
    have hkept' : session.records.rules = some rules := by
      obtain ⟨-, rfl⟩ := learn_eq_ok (readRules_eq _) hrules
      exact hsame'.symm
    rw [networkName?_of_rules hkept hkept']
    simp only [find?_rules_iff hrules hfit', getElem?_names_iff hnames hfit]
  · intro hnone
    rw [networkName?_of_no_rules hkept hnone, ← getElem?_names_iff hnames hfit]
    simp

/-- A card with two names and an unused record behind them, and with rules of which the first is
unused and the next two are for other areas and for another network. -/
def namingCard : SimulatedCard :=
  { files :=
      [{ file := FileId.networkNames
         records := some
           [[0x43, 0x03, 0x90, 0x00, 0x41], [0x43, 0x03, 0x90, 0x00, 0x42],
            [0xFF, 0xFF, 0xFF, 0xFF, 0xFF]] },
       { file := FileId.nameRules
         records := some
           [[0xFF, 0xFF, 0xFF, 0xFF, 0xFF, 0xFF, 0xFF, 0xFF],
            [0x62, 0xF2, 0x20, 0x00, 0x10, 0x00, 0x1F, 0x01],
            [0x62, 0xF2, 0x10, 0x00, 0x00, 0xFF, 0xFE, 0x01],
            [0x62, 0xF2, 0x20, 0x00, 0x00, 0xFF, 0xFE, 0x02]] }] }

/-- Reading the names of that card. -/
def namingRun :
    Except CardError (List OperatorName) × CardSession × SimulatedCard × List Exchange :=
  readNames (SimulatedCard.channel.recorded.access .sim) ({ application := .sim }, namingCard, [])

/-- Reading its rules after that. -/
def rulingRun : Except CardError (List NameRule) × CardSession × SimulatedCard × List Exchange :=
  readRules (SimulatedCard.channel.recorded.access .sim) (namingRun.2.1, namingRun.2.2.1, [])

/-- On that card the last rule applies, and it chooses the second record of names. -/
theorem network_name_is_that_of_the_card_abroad :
    rulingRun.2.1.networkName? "262" "02" 0x0020 = some { full := some "B" } ∧
      ∃ id, RuleFor rulingRun.2.2.2 "262" "02" 0x0020 id ∧ id ≠ 0 ∧
        NameAt namingRun.2.2.2 id.toNat { full := some "B" } := by
  have hname : rulingRun.2.1.networkName? "262" "02" 0x0020 = some { full := some "B" } := by
    decide +kernel
  have hnames : namingRun.1 = .ok [{ full := some "A" }, { full := some "B" }] := by
    decide +kernel
  have hrules : rulingRun.1 =
      .ok [⟨⟨"262", "02"⟩, 0x0010, 0x001F, 1⟩, ⟨⟨"262", "01"⟩, 0x0000, 0xFFFE, 1⟩,
        ⟨⟨"262", "02"⟩, 0x0000, 0xFFFE, 2⟩] := by
    decide +kernel
  have hfit : Records.AnswersFit namingRun.2.2.2 := by decide +kernel
  have hfit' : Records.AnswersFit rulingRun.2.2.2 := by decide +kernel
  have hsame : namingRun.2.1.records.names = rulingRun.2.1.records.names := by decide +kernel
  have hresult : ∀ {α : Type} {a : α}
      (result : Except CardError α × CardSession × SimulatedCard × List Exchange),
      result.1 = .ok a → result = (.ok a, result.2.1, result.2.2.1, result.2.2.2) := by
    rintro α a ⟨_, _⟩ rfl
    rfl
  have hread := hresult namingRun hnames
  have hread' := hresult rulingRun hrules
  obtain ⟨hwith, -⟩ := network_name_is_that_of_the_card SimulatedCard.channel .sim hread hfit hsame
    "262" "02" 0x0020 { full := some "B" }
  exact ⟨hname, (hwith hread' hfit' (Eq.refl rulingRun.2.1.records.rules)).1 hname⟩

end CardSession

end SimCard
