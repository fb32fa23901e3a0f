import SourceAtlas.Error
import SourceAtlas.Proofs.Text.Boundary

/-!
# Replies that an error quotes

A long reply is cut where a character ends, and as late as the limit allows.

* `prefix_takeOctets` — what is kept under a budget of octets is the longest front that fits; as no
  character has more than four octets, fewer than four octets of the budget are left over
  (`lt_length_takeOctets`).
* `lastBoundary?_takeOctets` — it ends at the last boundary within the budget.
* `quoteByOctets?` — the quotation made on the octets of a reply, by a search for that boundary.  It
  could fail by going below the beginning or by a cut inside a character, and never does.
* `quoteReply_longest` — all of this for quoted replies.
-/

namespace SourceAtlas

open Text

/-! ## Whole characters under a budget -/

theorem takeOctets_prefix (budget : Nat) (text : List Char) : takeOctets budget text <+: text := by
  induction text generalizing budget with
  | nil => exact List.prefix_rfl
  | cons c text ih =>
      rw [takeOctets]
      split
      · exact List.cons_prefix_cons.2 ⟨rfl, ih _⟩
      · exact List.nil_prefix

theorem length_takeOctets_le (budget : Nat) (text : List Char) :
    (octetsOf (takeOctets budget text)).length ≤ budget := by
  induction text generalizing budget with
  | nil => exact Nat.zero_le _
  | cons c text ih =>
      rw [takeOctets]
      split
      · rename_i hfits
        have hrest := ih (budget - c.utf8Size)
        rw [length_octetsOf_cons]
        omega
      · exact Nat.zero_le _

/-- What is kept is the longest front within the budget. -/
theorem prefix_takeOctets {front text : List Char} (hfront : front <+: text) :
    ∀ {budget : Nat}, (octetsOf front).length ≤ budget → front <+: takeOctets budget text := by
  induction text generalizing front with
  | nil =>
      intro budget _
      exact hfront
  | cons c text ih =>
      intro budget hbudget
      cases front with
      | nil => exact List.nil_prefix
      | cons d front =>
          obtain ⟨rfl, hrest⟩ := List.cons_prefix_cons.1 hfront
          rw [length_octetsOf_cons] at hbudget
          rw [takeOctets, if_pos (by omega)]
          exact List.cons_prefix_cons.2 ⟨rfl, ih hrest (by omega)⟩

/-- Where something is dropped, it is because a character of at most four octets did not fit. -/
theorem lt_length_takeOctets {budget : Nat} {text : List Char}
    (h : budget < (octetsOf text).length) :
    budget < (octetsOf (takeOctets budget text)).length + 4 := by
  induction text generalizing budget with
  | nil => exact absurd h (Nat.not_lt_zero _)
  | cons c text ih =>
      rw [length_octetsOf_cons] at h
      have hfour := c.utf8Size_le_four
      rw [takeOctets]
      split
      · have hrest : budget - c.utf8Size <
            (octetsOf (takeOctets (budget - c.utf8Size) text)).length + 4 := ih (by omega)
        rw [length_octetsOf_cons]
        omega
      · simp only [octetsOf_nil, List.length_nil]
        omega

/-- What is kept ends at the last boundary within the budget. -/
theorem lastBoundary?_takeOctets (budget : Nat) (text : List Char) :
    lastBoundary? (octetsOf text) budget = some (octetsOf (takeOctets budget text)).length := by
  refine lastBoundary?_eq_some (length_takeOctets_le budget text) ?_ ?_
  · exact isBoundary_octetsOf_iff.2 ⟨_, takeOctets_prefix budget text, rfl⟩
  · intro place hgreater hbudget
    rw [← Bool.not_eq_true, isBoundary_octetsOf_iff]
    rintro ⟨front, hfront, rfl⟩
    -- a later boundary within the budget would belong to a longer front that fits
    have hshorter := (octetsOf_prefix_iff.2 (prefix_takeOctets hfront hbudget)).length_le
    omega

/-! ## Quoting by octets -/

/-- A reply as an error quotes it, made on its octets: the search for a boundary goes down from the
limit, and the octets are cut where it stops. -/
def quoteByOctets? (body : String) : Option String :=
  let octets := encode body
  if octets.length ≤ quoteLimit then some body
  else do
    let place ← lastBoundary? octets quoteLimit
    let (front, _) ← splitAt? octets place
    let text ← (decode front).toOption
    some (text ++ "...")

theorem decode_octetsOf (text : List Char) :
    decode (octetsOf text) = .ok (String.ofList text) := by
  rw [decode_eq_ok_iff, encode_eq_octetsOf, String.toList_ofList]

theorem splitAt?_takeOctets (budget : Nat) (text : List Char) :
    ∃ back, splitAt? (octetsOf text) (octetsOf (takeOctets budget text)).length =
      some (octetsOf (takeOctets budget text), back) := by
  obtain ⟨back, hback⟩ := takeOctets_prefix budget text
  refine ⟨octetsOf back, ?_⟩
  have hsplit := splitAt?_octetsOf_append (takeOctets budget text) back
  rwa [hback] at hsplit

theorem quoteByOctets?_eq (body : String) : quoteByOctets? body = some (quoteReply body) := by
  have hlength : (encode body).length = body.utf8ByteSize := by
    rw [encode_eq_octetsOf, length_octetsOf_toList]
  obtain ⟨back, hsplit⟩ := splitAt?_takeOctets quoteLimit body.toList
  simp only [quoteByOctets?, quoteReply, hlength]
  split
  · rfl
  · rw [encode_eq_octetsOf, lastBoundary?_takeOctets]
    simp only [Option.bind_eq_bind, Option.bind_some, hsplit, decode_octetsOf, Except.toOption]

/-! ## Quoted replies -/

theorem quoteReply_of_le {body : String} (h : body.utf8ByteSize ≤ quoteLimit) :
    quoteReply body = body := if_pos h

theorem quoteReply_of_lt {body : String} (h : quoteLimit < body.utf8ByteSize) :
    quoteReply body = String.ofList (takeOctets quoteLimit body.toList) ++ "..." :=
  if_neg (Nat.not_le_of_lt h)

/-- **A quoted reply is cut safely, and as late as possible.**  A reply of at most 400 octets is
quoted as it is.  Of a longer one, the longest front within 400 octets is quoted, with three dots
behind it; it has at least 397 octets, and the search for a boundary, downwards from octet 400,
stops at its end.  Made on the octets, the quotation is the same; in particular, the search does not
go below the beginning, and the cut is not made inside a character. -/
theorem quoteReply_longest (body : String) :
    (body.utf8ByteSize ≤ 400 → quoteReply body = body) ∧
    (400 < body.utf8ByteSize → ∃ front back : String, body = front ++ back ∧
      quoteReply body = front ++ "..." ∧
      397 ≤ front.utf8ByteSize ∧ front.utf8ByteSize ≤ 400 ∧
      (∀ front' back' : String, body = front' ++ back' → front'.utf8ByteSize ≤ 400 →
        ∃ more, front = front' ++ more) ∧
      lastBoundary? (encode body) 400 = some front.utf8ByteSize) ∧
    quoteByOctets? body = some (quoteReply body) := by
  refine ⟨quoteReply_of_le, fun hlong => ?_, quoteByOctets?_eq body⟩
  obtain ⟨back, hback⟩ := takeOctets_prefix 400 body.toList
  have hsize : (String.ofList (takeOctets 400 body.toList)).utf8ByteSize =
      (octetsOf (takeOctets 400 body.toList)).length := by
    rw [← length_octetsOf_toList, String.toList_ofList]
  refine ⟨String.ofList (takeOctets 400 body.toList), String.ofList back, ?_,
    quoteReply_of_lt hlong, ?_, ?_, ?_, ?_⟩
  · rw [← String.ofList_append, hback, String.ofList_toList]
  · rw [← length_octetsOf_toList] at hlong
    have hfour := lt_length_takeOctets hlong
    rw [hsize]
    omega
  · rw [hsize]
    exact length_takeOctets_le 400 body.toList
  · rintro front' back' rfl hfits
    rw [← length_octetsOf_toList] at hfits
    have hfront : front'.toList <+: (front' ++ back').toList := by
      rw [String.toList_append]
      exact List.prefix_append _ _
    obtain ⟨more, hmore⟩ := prefix_takeOctets hfront hfits
    exact ⟨String.ofList more, by rw [← hmore, String.ofList_append, String.ofList_toList]⟩
  · rw [encode_eq_octetsOf, lastBoundary?_takeOctets, hsize]

/-- A character of four octets that begins behind octet 397 and does not fit any more. -/
theorem quoteReply_longest_fourOctets :
    "busy".utf8ByteSize ≤ 400 ∧ quoteReply "busy" = "busy" ∧
      ∃ body front back : String, body = String.ofList (List.replicate 397 'a' ++ ['😀', 'b']) ∧
        400 < body.utf8ByteSize ∧ body = front ++ back ∧ quoteReply body = front ++ "..." ∧
        front.utf8ByteSize = 397 := by
  have hshort : "busy".utf8ByteSize ≤ 400 := by decide +kernel
  have hlong : 400 < (String.ofList (List.replicate 397 'a' ++ ['😀', 'b'])).utf8ByteSize := by
    decide +kernel
  have hplace : lastBoundary? (encode (String.ofList (List.replicate 397 'a' ++ ['😀', 'b']))) 400 =
      some 397 := by
    decide +kernel
  obtain ⟨front, back, hbody, hquote, -, -, -, hlast⟩ := (quoteReply_longest _).2.1 hlong
  refine ⟨hshort, (quoteReply_longest "busy").1 hshort, _, front, back, rfl, hlong, hbody, hquote,
    ?_⟩
  exact Option.some.inj (hlast.symm.trans hplace)

end SourceAtlas
