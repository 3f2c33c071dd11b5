import SimCard.Proofs.Templates
import SimCard.Proofs.ToolkitSessions

/-!
# Commands that are cut short

A command may reach the phone without its end.  Where it was cut is nothing that its octets show:
between two elements, what is left of it is a list of elements like any other.  What gives it away
is the length at its head.  If that is cut itself, the octets run out while it is read, and
otherwise it counts more octets than there are (`Template.shortfall`).

So a command that is cut anywhere is refused before any of its elements is looked at
(`Template.fails_read`), and the card is told that its data were not understood.

A reader that takes one octet after the other fails at the end of them, wanting one more:
`Cursor.atEnd` is where it stops, and `Cursor.exhausted` what it says.
-/

set_option autoImplicit false

namespace SimCard

/-! ## The end of the octets -/

namespace Cursor

variable {c c' : Cursor} {octets : Octets}

/-- The cursor behind all that there is to read. -/
def atEnd (c : Cursor) : Cursor := c.advance c.remaining

/-- The failure to read one octet more than there are. -/
def exhausted (c : Cursor) : CursorError := .overrun (c.readIndex + c.remaining) 1 c.octets.length

/-- Taking octets does not move the end. -/
theorem Takes.atEnd_eq (h : c.Takes octets c') : c'.atEnd = c.atEnd := by
  rw [atEnd, atEnd, h.remaining_eq, advance_add, ← h.2]

theorem Takes.exhausted_eq (h : c.Takes octets c') : c'.exhausted = c.exhausted := by
  rw [exhausted, exhausted, h.remaining_eq, h.octets_eq, h.readIndex_eq, Nat.add_assoc]

/-- There is another octet to take, or there is none and reading one fails. -/
theorem takes_octet_or_fails (c : Cursor) :
    (∃ octet c', c.Takes [octet] c') ∨
      c.remaining = 0 ∧ readOctet.Fails c c.exhausted c.atEnd := by
  cases hget : c.octets[c.readIndex]? with
  | some octet => exact .inl ⟨octet, _, takes_singleton.2 ⟨hget, rfl⟩⟩
  | none =>
    have hremaining : c.remaining = 0 := Nat.sub_eq_zero_of_le (List.getElem?_eq_none_iff.1 hget)
    refine .inr ⟨hremaining, ?_⟩
    rw [Step.Fails, readOctet, hget, exhausted, atEnd, hremaining]
    rfl

end Cursor

theorem Step.Fails.liftM {α : Type} {x : Reader CursorError α} {c c' : Cursor} {e : CursorError}
    (h : x.Fails c e c') : (liftM x : Reader ElementError α).Fails c (.cursor e) c' :=
  h.mapError _

/-! ## Length fields -/

namespace Length

open Cursor

variable {c : Cursor} {number count length : Nat}

theorem fails_readDigits (h : c.remaining < count) :
    (readDigits number count).Fails c c.exhausted c.atEnd := by
  induction count generalizing number c with
  | zero => exact absurd h (Nat.not_lt_zero _)
  | succ count ih =>
    rw [readDigits]
    rcases c.takes_octet_or_fails with ⟨octet, c', htakes⟩ | ⟨-, hend⟩
    · have hleft := htakes.remaining_eq
      rw [List.length_singleton] at hleft
      rw [← htakes.exhausted_eq, ← htakes.atEnd_eq]
      exact (yields_readOctet.2 htakes).fails_bind (ih (by omega))
    · exact hend.bind _

/-- **A length field that is cut short** runs out of octets.  Its first octet, if it is there, says
how many were to follow. -/
theorem fails_read (hlt : length < 0x1000000) (hfront : c.rest <+: toOctets length)
    (hshort : c.remaining < size length) :
    read.Fails c (.cursor c.exhausted) c.atEnd := by
  rw [read]
  rcases c.takes_octet_or_fails with ⟨octet, c', htakes⟩ | ⟨-, hend⟩
  · have hleft := htakes.remaining_eq
    rw [List.length_singleton] at hleft
    have hlow : 0x80 ≤ length := by
      refine Nat.not_lt.1 fun hlow => ?_
      rw [size, if_pos hlow] at hshort
      omega
    obtain ⟨marker, count, least, digits, hform, hcount, -, -, hoctets⟩ := exists_form hlow hlt
    rw [htakes.rest_eq, hoctets] at hfront
    obtain ⟨rfl, hdigits⟩ := List.cons_prefix_cons.1 hfront
    rw [← length_toOctets, hoctets, List.length_cons] at hshort
    rw [← htakes.exhausted_eq, ← htakes.atEnd_eq]
    refine (yields_liftM.2 (yields_readOctet.2 htakes)).fails_bind ?_
    rw [if_neg (not_lt_of_form hform), hform]
    exact (fails_readDigits (by omega)).liftM.bind _
  · exact hend.liftM.bind _

end Length

/-! ## Templates -/

namespace Template

open Cursor

variable {c : Cursor} {octets : Octets} {total : Nat}

/-- **What gives away** a command whose elements have `total` octets, where not all of it is ahead
of the cursor. -/
def shortfall (total : Nat) (c : Cursor) : ElementError :=
  if c.remaining < 1 + Length.size total then .cursor c.exhausted
  else .tooLong total (c.remaining - (1 + Length.size total))

/-- How far a command is read that is cut short: no further than its head. -/
def stop (total : Nat) (c : Cursor) : Cursor := c.advance (min c.remaining (1 + Length.size total))

theorem shortfall_of_lt (h : c.remaining < 1 + Length.size total) :
    shortfall total c = .cursor c.exhausted ∧ stop total c = c.atEnd :=
  ⟨if_pos h, congrArg c.advance (Nat.min_eq_left (Nat.le_of_lt h))⟩

/-- **A command that is cut short is not read.** -/
theorem fails_read (hlt : octets.length < 0x1000000)
    (hfront : c.rest <+: Element.field Tag.proactiveCommand.code octets)
    (hshort : c.remaining < (Element.field Tag.proactiveCommand.code octets).length) :
    (read c.remaining).Fails c (shortfall octets.length c) (stop octets.length c) := by
  rw [read]
  rcases c.takes_octet_or_fails with ⟨tag, c₁, htag⟩ | ⟨hnone, hend⟩
  · rw [htag.rest_eq, Element.field, List.cons_append] at hfront
    obtain ⟨rfl, hfront₁⟩ := List.cons_prefix_cons.1 hfront
    have hleft := htag.remaining_eq
    rw [List.length_singleton] at hleft
    refine (yields_liftM.2 (yields_readOctet.2 htag)).fails_bind ?_
    rw [if_neg (not_not_intro rfl)]
    by_cases hhead : c.remaining < 1 + Length.size octets.length
    -- The length itself is cut.
    · have hcut : c₁.rest <+: Length.toOctets octets.length := by
        refine List.prefix_of_prefix_length_le hfront₁ (List.prefix_append _ _) ?_
        rw [length_rest, Length.length_toOctets]
        omega
      obtain ⟨herror, hstop⟩ := shortfall_of_lt hhead
      rw [herror, hstop, ← htag.exhausted_eq, ← htag.atEnd_eq]
      exact (Length.fails_read hlt hcut (by omega)).bind _
    -- The length is there, and counts more than what follows it.
    · have hwhole : Length.toOctets octets.length <+: c₁.rest := by
        refine List.prefix_of_prefix_length_le (List.prefix_append _ _) hfront₁ ?_
        rw [length_rest, Length.length_toOctets]
        omega
      have hlength : c₁.Takes (Length.toOctets octets.length) (stop octets.length c) := by
        refine ⟨hwhole, ?_⟩
        rw [stop, Nat.min_eq_right (Nat.not_lt.1 hhead), advance_add, Length.length_toOctets,
          htag.2]
        rfl
      refine (Length.yields_read.2 ⟨hlt, rfl, hlength⟩).fails_bind ?_
      rw [Element.field, List.length_append, List.length_cons, Length.length_toOctets] at hshort
      have havailable : c.remaining - (1 + Length.size octets.length) < octets.length := by omega
      dsimp only
      rw [shortfall, if_neg hhead, if_pos havailable]
      rfl
  · have hhead : c.remaining < 1 + Length.size octets.length := by omega
    obtain ⟨herror, hstop⟩ := shortfall_of_lt hhead
    rw [herror, hstop]
    exact hend.liftM.bind _

end Template

/-! ## What becomes of a command that is cut short -/

namespace ToolkitSession

/-- **A command that is cut short is always refused.**  Wherever it is cut, in its head, between two
elements or within one, the head gives it away.  No command comes of it, and the card gets one
answer, which names no command and says that the data were not understood. -/
theorem truncated_command_is_refused (elements : List Element)
    (hlt : (elements.flatMap Element.toOctets).length < 0x1000000) (taken : Octets)
    (hfront : taken <+: (Template.ofElements Template.Tag.proactiveCommand.code elements).toOctets)
    (hne : taken ≠ (Template.ofElements Template.Tag.proactiveCommand.code elements).toOctets)
    (c : Cursor) (hrest : c.rest = taken) (session : ToolkitSession) :
    let total := (elements.flatMap Element.toOctets).length
    let error := Template.shortfall total c
    Template.read taken.length c = (.error error, Template.stop total c) ∧
      ∃ parcel,
        hear taken.length c session =
          (.error (.element error),
            { session with token := session.token + 1, sent := session.sent ++ [parcel] }) ∧
        parcel.requestType = Parcel.Request.sendTerminalResponse.code ∧
        parcel.token = session.token + 1 ∧
        Element.readList parcel.payload.length (Cursor.ofOctets parcel.payload) =
          (.ok (Response.bareElements { number := 0, commandType := 0, qualifier := 0 } 0x32),
            (Cursor.ofOctets parcel.payload).advance parcel.payload.length) := by
  intro total error
  have hshort : taken.length < (Template.ofElements _ elements).toOctets.length :=
    Nat.lt_of_le_of_ne hfront.length_le fun h => hne (hfront.eq_of_length h)
  have hlength : taken.length = c.remaining := by rw [← hrest, Cursor.length_rest]
  have hread : Template.read taken.length c = (.error error, Template.stop total c) := by
    rw [hlength] at hshort ⊢
    exact Template.fails_read hlt (hrest ▸ hfront) hshort
  refine ⟨hread, _, hear_of_error (congrArg Prod.fst hread) session, rfl, rfl, ?_⟩
  exact Response.readList_bare _ _ _ _ (List.append_nil _).symm

/-- A command that is cut between its two elements.  The first of them is all that the command
needs, but the head counts on the second. -/
theorem truncated_command_is_refused_between_elements :
    let elements : List Element :=
      [.ofValue 0x01 true (.commandDetails { number := 1, commandType := 0x01, qualifier := 0 }),
       .ofValue 0x0B false (.raw (List.replicate 0x80 0x55))]
    let taken : Octets := [0xD0, 0x81, 0x88, 0x81, 0x03, 0x01, 0x01, 0x00]
    let c := Cursor.ofOctets taken
    let session : ToolkitSession := { token := 0xFFFFFFFF }
    taken <+: (Template.ofElements Template.Tag.proactiveCommand.code elements).toOctets ∧
      taken ≠ (Template.ofElements Template.Tag.proactiveCommand.code elements).toOctets ∧
      Template.read 8 c = (.error (.tooLong 0x88 5), c.advance 3) ∧
      ∃ parcel, hear 8 c session =
        (.error (.element (.tooLong 0x88 5)), { session with token := 0, sent := [parcel] }) := by
  intro elements taken c session
  have hfront :
      taken <+: (Template.ofElements Template.Tag.proactiveCommand.code elements).toOctets := by
    decide +kernel
  have hne :
      taken ≠ (Template.ofElements Template.Tag.proactiveCommand.code elements).toOctets := by
    decide +kernel
  obtain ⟨hread, parcel, hhear, -⟩ := truncated_command_is_refused elements (by decide +kernel)
    taken hfront hne c rfl session
  have hshortfall : Template.shortfall (elements.flatMap Element.toOctets).length c =
      .tooLong 0x88 5 := by decide +kernel
  have hstop : Template.stop (elements.flatMap Element.toOctets).length c = c.advance 3 := by
    decide +kernel
  have htoken : session.token + 1 = 0 := by decide
  rw [hshortfall, hstop] at hread
  rw [hshortfall, htoken] at hhear
  exact ⟨hfront, hne, hread, parcel, hhear⟩

end ToolkitSession

end SimCard
