import JqBle.Demo.Invite

/-!
# The grammar of peer invites

An invite is a node id in hexadecimal digits, alone or behind the path of a deep link. The parser
trims in two places, splits at the first `://` and rewrites the path; what it accepts is said here
without any of that.
-/

namespace JqBle.Proof.Demo
open Host JqBle.Library.Text JqBle.Demo

variable {hex : HexCrate} {nodeId : NodeId} {digits text : List Char}

/-! ## The grammar -/

def Blank (text : List Char) : Prop := ∀ character ∈ text, isWhitespace character

inductive IsInvite (digits : List Char) : List Char → Prop
  | bare {leading trailing} (blank_leading : Blank leading) (blank_trailing : Blank trailing) :
      IsInvite digits (leading ++ digits ++ trailing)
  | link {leading slash gap trailing} (blank_leading : Blank leading)
      (optional : slash = [] ∨ slash = ['/']) (blank_gap : Blank gap)
      (blank_trailing : Blank trailing) :
      IsInvite digits
        (leading ++ ("jq-ble://".toList ++ slash ++ "add-peer/".toList ++ gap ++ digits) ++ trailing)

def NodeIdDigits (digits : List Char) : Prop :=
  digits.length = 64 ∧ ∀ digit ∈ digits, IsHexDigit digit

/-! ## Digits -/

theorem isWhitespace_of_isHexDigit {digit : Char} (isDigit : IsHexDigit digit) :
    isWhitespace digit = false := by
  rw [isHexDigit_iff] at isDigit
  simp only [isWhitespace, Bool.or_eq_false_iff, Bool.and_eq_false_iff, decide_eq_false_iff_not,
    beq_eq_false_iff_ne]
  omega

theorem utf8Size_of_isHexDigit {digit : Char} (isDigit : IsHexDigit digit) :
    digit.utf8Size = 1 := by
  rw [isHexDigit_iff] at isDigit
  rw [Char.utf8Size_eq_one_iff, UInt32.le_iff_toNat_le]
  show digit.toNat ≤ 127
  omega

theorem utf8Len_of_isHexDigit (isDigit : ∀ digit ∈ digits, IsHexDigit digit) :
    utf8Len digits = digits.length := by
  induction digits with
  | nil => rfl
  | cons digit rest ih =>
      have one := utf8Size_of_isHexDigit (isDigit digit (by simp))
      have others := ih fun other member => isDigit other (by simp [member])
      show digit.utf8Size + utf8Len rest = rest.length + 1
      rw [one, others, Nat.add_comm]

theorem colon_not_mem (isDigit : ∀ digit ∈ digits, IsHexDigit digit) : ':' ∉ digits := by
  intro member
  have code := isHexDigit_iff.mp (isDigit ':' member)
  revert code
  decide

theorem trimmed_of_isHexDigit (isDigit : ∀ digit ∈ digits, IsHexDigit digit) :
    Trimmed isWhitespace digits :=
  trimmed_of_forall fun digit member => isWhitespace_of_isHexDigit (isDigit digit member)

theorem exists_nodeId (nodeIdDigits : NodeIdDigits digits) :
    ∃ nodeId : NodeId, hexBytes digits = some nodeId.bytes.toList := by
  obtain ⟨sized, isDigit⟩ := nodeIdDigits
  obtain ⟨bytes, denotes⟩ := exists_hexBytes isDigit (by omega)
  have length := (hexBytes_sound denotes).2
  exact ⟨⟨⟨bytes.toArray, by simp; omega⟩⟩, denotes⟩

theorem nodeIdDigits_of_hexBytes (denotes : hexBytes digits = some nodeId.bytes.toList) :
    NodeIdDigits digits := by
  obtain ⟨isDigit, sized⟩ := hexBytes_sound denotes
  exact ⟨by simpa using sized, isDigit⟩

/-! ## The node id -/

theorem isHexDigit_of_decode {text : String} {bytes : List UInt8}
    (accepted : hex.decode text = .ok bytes) : ∀ digit ∈ text.toList, IsHexDigit digit := by
  intro digit member
  by_contra other
  obtain ⟨error, rejected⟩ := hex.decode_invalid text ⟨digit, member, other⟩
  rw [accepted] at rejected
  cases rejected

/-- What the crate writes are the digits of the bytes. -/
theorem hexBytes_encode (hex : HexCrate) (bytes : List UInt8) :
    hexBytes (hex.encode bytes).toList = some bytes := by
  have accepted := hex.decode_encode bytes
  obtain ⟨denoted, denotes⟩ := exists_hexBytes (isHexDigit_of_decode accepted) (by
    rw [hex.encode_length, Nat.mul_mod_right])
  rw [hex.decode_digits _ denoted denotes, Except.ok.injEq] at accepted
  rw [denotes, accepted]

theorem decodeNodeIdHex_eq_ok :
    decodeNodeIdHex hex digits = .ok nodeId ↔ hexBytes digits = some nodeId.bytes.toList := by
  unfold decodeNodeIdHex
  constructor
  · intro decoded
    split at decoded
    · cases decoded
    · rename_i sized
      split at decoded
      · cases decoded
      · rename_i bytes accepted
        have isDigit : ∀ digit ∈ digits, IsHexDigit digit := by
          simpa using isHexDigit_of_decode accepted
        rw [utf8Len_of_isHexDigit isDigit] at sized
        obtain ⟨denoted, denotes⟩ := exists_hexBytes isDigit (by omega)
        have read := hex.decode_digits (String.ofList digits) denoted (by simpa using denotes)
        rw [accepted, Except.ok.injEq] at read
        subst read
        split at decoded
        · cases decoded
          exact denotes
        · cases decoded
  · intro denotes
    obtain ⟨sized, isDigit⟩ := nodeIdDigits_of_hexBytes denotes
    have read := hex.decode_digits (String.ofList digits) _ (by simpa using denotes)
    rw [if_neg (by rw [utf8Len_of_isHexDigit isDigit, sized]; simp), read]
    simp only [Vector.length_toList, dite_true]
    rfl

/-! ## Soundness -/

theorem link_of_inviteNodeIdHex {remainder rest : List Char}
    (stripped : inviteActionPath.toList.isPrefixOf?
      (if ['/'].isPrefixOf remainder then remainder else '/' :: remainder) = some rest) :
    ∃ slash, (slash = [] ∨ slash = ['/']) ∧ remainder = slash ++ "add-peer/".toList ++ rest := by
  have path := List.isPrefixOf?_eq_some_iff_append_eq.mp stripped
  split at path
  · exact ⟨['/'], Or.inr rfl, path.symm⟩
  · exact ⟨[], Or.inl rfl, (List.cons.inj path).2.symm⟩

theorem isInvite_of_inviteNodeIdHex {leading trailing trimmed : List Char}
    (blank_leading : Blank leading) (blank_trailing : Blank trailing)
    (found : inviteNodeIdHex trimmed = .ok digits) :
    IsInvite digits (leading ++ trimmed ++ trailing) := by
  unfold inviteNodeIdHex at found
  split at found
  · rename_i scheme remainder split
    split at found
    · cases found
    · rename_i own
      obtain rfl := not_not.mp own
      dsimp only at found
      split at found
      · cases found
      · rename_i rest stripped
        cases found
        obtain ⟨slash, optional, rfl⟩ := link_of_inviteNodeIdHex stripped
        obtain ⟨gap, tail, blank_gap, blank_tail, padded⟩ := exists_pad isWhitespace rest
        rw [splitOnce_sound split]
        have whole : leading ++ (jacquardBleInviteScheme.toList ++ "://".toList ++
            (slash ++ "add-peer/".toList ++ rest)) ++ trailing =
            leading ++ ("jq-ble://".toList ++ slash ++ "add-peer/".toList ++ gap ++
              trim isWhitespace rest) ++ (tail ++ trailing) := by
          conv_lhs => rw [padded]
          simp [jacquardBleInviteScheme]
        rw [whole]
        refine .link blank_leading optional blank_gap ?_
        intro character member
        rcases List.mem_append.mp member with inner | outer
        · exact blank_tail character inner
        · exact blank_trailing character outer
  · cases found
    exact .bare blank_leading blank_trailing

/-! ## Completeness -/

theorem inviteNodeIdHex_digits (isDigit : ∀ digit ∈ digits, IsHexDigit digit) :
    inviteNodeIdHex digits = .ok digits := by
  have whole : splitOnce "://".toList digits = none := splitOnce_eq_none (colon_not_mem isDigit)
  rw [inviteNodeIdHex, whole]

theorem inviteNodeIdHex_link {slash gap : List Char} (optional : slash = [] ∨ slash = ['/'])
    (blank_gap : Blank gap) (isDigit : ∀ digit ∈ digits, IsHexDigit digit) :
    inviteNodeIdHex ("jq-ble://".toList ++ slash ++ "add-peer/".toList ++ gap ++ digits) =
      .ok digits := by
  have split : splitOnce "://".toList
      ("jq-ble://".toList ++ slash ++ "add-peer/".toList ++ gap ++ digits) =
        some (jacquardBleInviteScheme.toList, slash ++ "add-peer/".toList ++ gap ++ digits) := by
    have colonless : ':' ∉ jacquardBleInviteScheme.toList := by decide
    have parts : splitOnce [':', '/', '/'] (jacquardBleInviteScheme.toList ++
        ([':', '/', '/'] ++ (slash ++ "add-peer/".toList ++ gap ++ digits))) =
          some (jacquardBleInviteScheme.toList, slash ++ "add-peer/".toList ++ gap ++ digits) :=
      splitOnce_append colonless
    simpa [jacquardBleInviteScheme] using parts
  have path : (if ['/'].isPrefixOf (slash ++ "add-peer/".toList ++ gap ++ digits) then
      slash ++ "add-peer/".toList ++ gap ++ digits
      else '/' :: (slash ++ "add-peer/".toList ++ gap ++ digits)) =
        inviteActionPath.toList ++ (gap ++ digits) := by
    rcases optional with rfl | rfl
    · simp [inviteActionPath]
    · simp [inviteActionPath]
  have stripped : inviteActionPath.toList.isPrefixOf? (inviteActionPath.toList ++ (gap ++ digits)) =
      some (gap ++ digits) := List.isPrefixOf?_eq_some_iff_append_eq.mpr rfl
  have trimmed : trim isWhitespace (gap ++ digits) = digits := by
    have padded : trim isWhitespace (gap ++ digits ++ []) = digits :=
      trim_pad (trimmed_of_isHexDigit isDigit) blank_gap (by simp)
    rwa [List.append_nil] at padded
  rw [inviteNodeIdHex, split]
  simp only [ne_eq, not_true_eq_false, if_false, path, stripped, trimmed]

theorem trim_isInvite (invite : IsInvite digits text) (nodeIdDigits : NodeIdDigits digits) :
    trim isWhitespace text ≠ [] ∧ inviteNodeIdHex (trim isWhitespace text) = .ok digits := by
  obtain ⟨sized, isDigit⟩ := nodeIdDigits
  have digits_ne : digits ≠ [] := by
    rintro rfl
    simp at sized
  cases invite with
  | bare blank_leading blank_trailing =>
      rw [trim_pad (trimmed_of_isHexDigit isDigit) blank_leading blank_trailing]
      exact ⟨digits_ne, inviteNodeIdHex_digits isDigit⟩
  | @link leading slash gap trailing blank_leading optional blank_gap blank_trailing =>
      have scheme : Trimmed isWhitespace "jq-ble://".toList := by
        have visible : "jq-ble://".toList.all (fun character => !isWhitespace character) = true := by
          decide
        apply trimmed_of_forall
        intro character member
        simpa using List.all_eq_true.mp visible character member
      have core := scheme.append (trimmed_of_isHexDigit isDigit) (by decide) digits_ne
        (slash ++ "add-peer/".toList ++ gap)
      simp only [← List.append_assoc] at core
      rw [trim_pad core blank_leading blank_trailing]
      exact ⟨by simp, inviteNodeIdHex_link optional blank_gap isDigit⟩

/-! ## The parser -/

theorem decodePeerInvite_eq_ok {invite : String} : decodePeerInvite hex invite = .ok nodeId ↔
    ∃ digits, IsInvite digits invite.toList ∧ hexBytes digits = some nodeId.bytes.toList := by
  unfold decodePeerInvite
  constructor
  · intro decoded
    dsimp only at decoded
    split at decoded
    · cases decoded
    · split at decoded
      · cases decoded
      · rename_i digits found
        obtain ⟨leading, trailing, blank_leading, blank_trailing, padded⟩ :=
          exists_pad isWhitespace invite.toList
        refine ⟨digits, ?_, decodeNodeIdHex_eq_ok.mp decoded⟩
        rw [padded]
        exact isInvite_of_inviteNodeIdHex blank_leading blank_trailing found
  · rintro ⟨digits, isInvite, denotes⟩
    obtain ⟨trimmed_ne, found⟩ := trim_isInvite isInvite (nodeIdDigits_of_hexBytes denotes)
    dsimp only
    rw [if_neg (by simpa using trimmed_ne), found]
    exact decodeNodeIdHex_eq_ok.mpr denotes

theorem isInvite_encodePeerInvite (hex : HexCrate) (nodeId : NodeId) :
    IsInvite (hex.encode nodeId.bytes.toList).toList (encodePeerInvite hex nodeId).toList := by
  have none_blank : Blank [] := by
    intro character member
    cases member
  have link : IsInvite (hex.encode nodeId.bytes.toList).toList _ :=
    .link none_blank (Or.inr rfl) none_blank none_blank
  simpa [encodePeerInvite, jacquardBleInviteScheme, inviteActionPath] using link

/-- The parser accepts the invites and nothing else, gives the node id that the digits denote, and
reads back what is encoded. -/
theorem decodePeerInvite_accepts_exactly_the_grammar (hex : HexCrate) :
    (∀ invite : String, (∃ nodeId, decodePeerInvite hex invite = .ok nodeId) ↔
      ∃ digits, IsInvite digits invite.toList ∧ NodeIdDigits digits) ∧
    (∀ (invite : String) (digits : List Char), IsInvite digits invite.toList →
      NodeIdDigits digits → ∃ nodeId, decodePeerInvite hex invite = .ok nodeId ∧
        hexBytes digits = some nodeId.bytes.toList) ∧
    (∀ invite : String, (¬ ∃ digits, IsInvite digits invite.toList ∧ NodeIdDigits digits) →
      ∃ error, decodePeerInvite hex invite = .error error) ∧
    ∀ nodeId : NodeId, decodePeerInvite hex (encodePeerInvite hex nodeId) = .ok nodeId := by
  have accepts (invite : String) (digits : List Char) (isInvite : IsInvite digits invite.toList)
      (nodeIdDigits : NodeIdDigits digits) : ∃ nodeId, decodePeerInvite hex invite = .ok nodeId ∧
        hexBytes digits = some nodeId.bytes.toList := by
    obtain ⟨nodeId, denotes⟩ := exists_nodeId nodeIdDigits
    exact ⟨nodeId, decodePeerInvite_eq_ok.mpr ⟨digits, isInvite, denotes⟩, denotes⟩
  have sound (invite : String) (nodeId : NodeId)
      (decoded : decodePeerInvite hex invite = .ok nodeId) :
      ∃ digits, IsInvite digits invite.toList ∧ NodeIdDigits digits := by
    obtain ⟨digits, isInvite, denotes⟩ := decodePeerInvite_eq_ok.mp decoded
    exact ⟨digits, isInvite, nodeIdDigits_of_hexBytes denotes⟩
  refine ⟨?_, accepts, ?_, ?_⟩
  · intro invite
    constructor
    · rintro ⟨nodeId, decoded⟩
      exact sound invite nodeId decoded
    · rintro ⟨digits, isInvite, nodeIdDigits⟩
      obtain ⟨nodeId, decoded, -⟩ := accepts invite digits isInvite nodeIdDigits
      exact ⟨nodeId, decoded⟩
  · intro invite refused
    cases decoded : decodePeerInvite hex invite with
    | error error => exact ⟨error, rfl⟩
    | ok nodeId => exact absurd (sound invite nodeId decoded) refused
  · intro nodeId
    apply decodePeerInvite_eq_ok.mpr
    exact ⟨_, isInvite_encodePeerInvite hex nodeId, hexBytes_encode hex nodeId.bytes.toList⟩

theorem decodePeerInvite_upper_case :
    ∃ nodeId, decodePeerInvite lowerHexCrate (String.ofList (' ' :: List.replicate 64 'A')) =
        .ok nodeId ∧
      hexBytes (List.replicate 64 'A') = some nodeId.bytes.toList := by
  apply (decodePeerInvite_accepts_exactly_the_grammar lowerHexCrate).2.1
  · have leading : Blank [' '] := by
      intro character member
      obtain rfl := List.mem_singleton.mp member
      decide
    have bare : IsInvite (List.replicate 64 'A') ([' '] ++ List.replicate 64 'A' ++ []) :=
      .bare leading nofun
    simpa using bare
  · constructor
    · simp
    · intro digit member
      rw [List.eq_of_mem_replicate member, isHexDigit_iff]
      decide

end JqBle.Proof.Demo
