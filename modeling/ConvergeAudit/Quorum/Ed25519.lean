import ConvergeAudit.Quorum.Collector

/-!
`crypto/experimental_crypto.mbt`: a roster compares keys as hex texts, the verifier uses the bytes they stand for.
-/

namespace ConvergeAudit.Quorum
open Moon Bft List

def hexNibble (code : UInt16) : Option ℕ :=
  let value := code.toNat
  if value ≥ 48 ∧ value ≤ 57 then some (value - 48)
  else if value ≥ 97 ∧ value ≤ 102 then some (value - 97 + 10)
  else if value ≥ 65 ∧ value ≤ 70 then some (value - 65 + 10)
  else none

/-- The loop over pairs of digits; a text of odd length is refused. -/
def bytesFromHex : List UInt16 → Option (List UInt8)
  | [] => some []
  | [_] => none
  | first :: second :: rest => do
    let high ← hexNibble first
    let low ← hexNibble second
    let output ← bytesFromHex rest
    some (UInt8.ofNat (high <<< 4 ||| low) :: output)

/-- The signature library: which bytes are a key, and its strict check. -/
structure Ed25519 where
  isKey : List UInt8 → Bool
  verifyStrict : List UInt8 → Str → List UInt8 → Bool

def experimentalEd25519Verifier (library : Ed25519) : Verifier where
  verify publicKey digest signature :=
    match bytesFromHex publicKey.text.units with
    | none => false
    | some keyBytes =>
      match bytesFromHex signature.text.units with
      | none => false
      | some signatureBytes => library.isKey keyBytes && library.verifyStrict keyBytes digest.text signatureBytes

/-- A hexadecimal digit with its letter in lower case. -/
def lowerDigit (code : UInt16) : UInt16 := if 65 ≤ code.toNat ∧ code.toNat ≤ 70 then code + 32 else code

theorem hexNibble_lowerDigit (code : UInt16) : hexNibble (lowerDigit code) = hexNibble code := by
  unfold lowerDigit
  split
  · rename_i capital
    have lower : (code + 32).toNat = code.toNat + 32 := by
      rw [UInt16.toNat_add, show (32 : UInt16).toNat = 32 from rfl]
      omega
    simp only [hexNibble, lower]
    split_ifs <;> first | omega | rw [Option.some_inj]; omega
  · rfl

theorem hexNibble_read (read : hexNibble code = some n) :
    n < 16 ∧ (lowerDigit code).toNat = if n < 10 then 48 + n else 87 + n := by
  rw [← hexNibble_lowerDigit] at read
  have lower : ¬(65 ≤ (lowerDigit code).toNat ∧ (lowerDigit code).toNat ≤ 70) := by
    unfold lowerDigit
    split
    · rw [UInt16.toNat_add, show (32 : UInt16).toNat = 32 from rfl]
      omega
    · assumption
  unfold hexNibble at read
  dsimp only at read
  split_ifs at read <;> rw [Option.some_inj] at read <;> split <;> omega

theorem lowerDigit_eq (read : hexNibble code = some n) : hexNibble other = some n ↔ lowerDigit code = lowerDigit other := by
  constructor
  · intro read'
    exact UInt16.toNat_inj.mp ((hexNibble_read read).2.trans (hexNibble_read read').2.symm)
  · intro same
    rw [← hexNibble_lowerDigit, ← same, hexNibble_lowerDigit, read]

theorem byte_inj (low : l < 16) (low' : l' < 16) (high : h < 16) (high' : h' < 16)
    (same : UInt8.ofNat (h <<< 4 ||| l) = UInt8.ofNat (h' <<< 4 ||| l')) : h = h' ∧ l = l' := by
  rw [← Nat.shiftLeft_add_eq_or_of_lt (i := 4) low, ← Nat.shiftLeft_add_eq_or_of_lt (i := 4) low', Nat.shiftLeft_eq,
    Nat.shiftLeft_eq] at same
  have numbers := congrArg UInt8.toNat same
  simp only [UInt8.toNat_ofNat'] at numbers
  omega

theorem bytesFromHex_cons : bytesFromHex (first :: second :: rest) = some bytes ↔ ∃ high low output,
    hexNibble first = some high ∧ hexNibble second = some low ∧ bytesFromHex rest = some output ∧
      UInt8.ofNat (high <<< 4 ||| low) :: output = bytes := by
  simp [bytesFromHex, Option.bind_eq_some_iff]

/-- Two texts stand for the same bytes if they differ only in the case of their letters. -/
theorem bytesFromHex_iff (read : bytesFromHex units = some bytes) :
    bytesFromHex others = some bytes ↔ units.map lowerDigit = others.map lowerDigit := by
  induction units using bytesFromHex.induct generalizing others bytes with
  | case1 =>
    cases read
    match others with
    | [] => simp [bytesFromHex]
    | [_] => simp [bytesFromHex]
    | _ :: _ :: _ => simp [bytesFromHex_cons]
  | case2 => cases read
  | case3 first second rest ih =>
    obtain ⟨high, low, output, readHigh, readLow, readRest, rfl⟩ := bytesFromHex_cons.mp read
    match others with
    | [] => simp [bytesFromHex]
    | [_] => simp [bytesFromHex]
    | first' :: second' :: rest' =>
      rw [bytesFromHex_cons, map_cons, map_cons, map_cons, map_cons, cons.injEq, cons.injEq, ← lowerDigit_eq readHigh,
        ← lowerDigit_eq readLow, ← ih readRest]
      constructor
      · rintro ⟨high', low', output', readHigh', readLow', readRest', same⟩
        obtain ⟨byte, rfl⟩ := cons.inj same
        obtain ⟨rfl, rfl⟩ := byte_inj (hexNibble_read readLow').1 (hexNibble_read readLow).1 (hexNibble_read readHigh').1
          (hexNibble_read readHigh).1 byte
        exact ⟨readHigh', readLow', readRest'⟩
      · rintro ⟨readHigh', readLow', readRest'⟩
        exact ⟨high, low, output, readHigh', readLow', readRest', rfl⟩

/-- The key that a signature is checked under. -/
def keyBytes (key : PublicKey) : Option (List UInt8) := bytesFromHex key.text.units

/-- A member whose key text stands for `key`, bytes that the library takes as a key. -/
def ChecksUnder (library : Ed25519) (poll : Poll) (index : ℕ) (key : List UInt8) : Prop :=
  library.isKey key = true ∧ ∃ member, poll.members[index]? = some member ∧ keyBytes member.memberKey = some key

theorem Poll.Authentic.checksUnder {poll : Poll} {vote : VoteChoice} (authentic : poll.Authentic signed index vote)
    (verified : poll.verifier = experimentalEd25519Verifier library) :
    ∃ key, keyBytes signed.signerKey = some key ∧ ChecksUnder library poll index key := by
  have checked := authentic.signature
  rw [verified] at checked
  cases read : keyBytes signed.signerKey with
  | none => simp [experimentalEd25519Verifier, ← keyBytes.eq_def, read] at checked
  | some key =>
    refine ⟨key, rfl, ?_, _, authentic.member, read⟩
    simp only [experimentalEd25519Verifier, ← keyBytes.eq_def, read] at checked
    split at checked
    · cases checked
    · exact (Bool.and_eq_true_iff.mp checked).1

theorem Poll.Valid.approved {poll : Poll} (valid : poll.Valid) (approved : (poll.evidence votes).approvals[i]? = some true) :
    poll.Authenticated votes i .approveChoice := by
  have inside : i < poll.members.length := by
    rw [← length_approvals votes]
    exact (List.getElem?_eq_some_iff.mp approved).1
  rw [valid.getElem?_approvals i inside, Option.some_inj, valid.isApproval_iff] at approved
  exact approved.1

/-- Members are checked under different keys, and so are the approvals that count for them, exactly when no two members list
texts of one key that differ only in the case of their letters. -/
theorem roster_keys_distinct_iff (library : Ed25519) (poll : Poll) (valid : poll.Valid)
    (verified : poll.verifier = experimentalEd25519Verifier library) :
    ((∀ i j key, ChecksUnder library poll i key → ChecksUnder library poll j key → i = j) ∧
      ∀ votes i j, i ≠ j → (poll.evidence votes).approvals[i]? = some true →
        (poll.evidence votes).approvals[j]? = some true →
        ∃ signed ∈ votes, ∃ signed' ∈ votes, poll.Authentic signed i .approveChoice ∧
          poll.Authentic signed' j .approveChoice ∧ keyBytes signed.signerKey ≠ keyBytes signed'.signerKey) ↔
    ∀ (i j : ℕ) member member', poll.members[i]? = some member → poll.members[j]? = some member' → i ≠ j →
      (keyBytes member.memberKey).any library.isKey = true →
      member.memberKey.text.units.map lowerDigit ≠ member'.memberKey.text.units.map lowerDigit := by
  constructor
  · rintro ⟨apart, _⟩ i j member member' found found' different isKey same
    obtain ⟨key, read, accepted⟩ := (Option.any_eq_true _ _).mp isKey
    have read' := (bytesFromHex_iff read).mpr same
    exact different (apart i j key ⟨accepted, member, found, read⟩ ⟨accepted, member', found', read'⟩)
  · intro texts
    have apart : ∀ i j key, ChecksUnder library poll i key → ChecksUnder library poll j key → i = j := by
      rintro i j key ⟨accepted, member, found, read⟩ ⟨_, member', found', read'⟩
      by_contra different
      refine texts i j member member' found found' different ?_ ((bytesFromHex_iff read).mp read')
      rw [read]
      exact accepted
    refine ⟨apart, fun votes i j different approved approved' => ?_⟩
    obtain ⟨signed, delivered, authentic⟩ := valid.approved approved
    obtain ⟨signed', delivered', authentic'⟩ := valid.approved approved'
    refine ⟨signed, delivered, signed', delivered', authentic, authentic', fun same => different ?_⟩
    obtain ⟨key, read, under⟩ := authentic.checksUnder verified
    obtain ⟨key', read', under'⟩ := authentic'.checksUnder verified
    obtain rfl := Option.some.inj (read.symm.trans (same.trans read'))
    exact apart i j key under under'

namespace Ed25519Sample

/-- The public key of the tests of the source, and a second one. -/
def aliceKey : Str := "d75a980182b10ab7d54bfed3c964073a0ee172f3daa62325af021a68f707511a"

def bobKey : Str := "3d4017c3e843895a92b70aa74d1b7ebc9c982ccf2ec4968cc0cd55f12af4660c"

def capitalKey : Str := "D75A980182B10AB7D54BFED3C964073A0EE172F3DAA62325AF021A68F707511A"

/-- The approvals of members 0 and 1 that the two keys sign. -/
def signatures : List (Str × Str × Str) :=
  [(aliceKey, "0", "db1853486982e746c53c978079a1c2112708b9d071a601031432df78e4d84ed9" ++
      "d68d10db92af7641fcd3c37c7dd0feb982e235857a81469836dd386a9be4a90b"),
    (aliceKey, "1", "f76b2738ae0aaeb5e31c1310775965e26beca18717022c4b349f0e366fa9250f" ++
      "c6f8f5127bed4211b0dafd11d5eea73360733fd0089a906d828ce58363c08c09"),
    (bobKey, "1", "1956ef42519183b3824ad5784f325cc1e5fbe33624e6cab40b3ff59f6a4c9494" ++
      "fcccc708dbc27610cfe761c8c433e272408af829d9f3e6f50250602e10ec520f")]

def text (member : Str) : Str := serializeVoteStatement ⟨⟨"s"⟩, member, "d", .approveChoice⟩

/-- The signature library on the two keys and their signatures. -/
def library : Ed25519 where
  isKey key := [aliceKey, bobKey].any fun text => keyBytes ⟨text⟩ == some key
  verifyStrict key digest signature := signatures.any fun (signer, member, signed) =>
    keyBytes ⟨signer⟩ == some key && digest == text member && bytesFromHex signed.units == some signature

def signer (key : Str) : Signer where
  sign digest := ⟨((signatures.find? fun row => row.1 = key ∧ text row.2.1 = digest.text).map (·.2.2)).getD Str.empty⟩
  publicKey := ⟨key⟩

def poll (keys : List Str) : Poll where
  hasher := .identity
  verifier := experimentalEd25519Verifier library
  subject := ⟨"s"⟩
  domain := "d"
  members := keys.zipIdx.map fun (key, index) => ⟨Str.ofInt index, ⟨key⟩⟩

/-- A vote shows the key text under which its member is listed. -/
def approval (key member listed : Str) : SignedVote :=
  { signVote .identity (signer key) ⟨"s"⟩ member "d" .approveChoice with signerKey := ⟨listed⟩ }

end Ed25519Sample

open Ed25519Sample

theorem roster_keys_distinct_iff_two_keys :
    ∃ signed ∈ [approval aliceKey "0" aliceKey, approval bobKey "1" bobKey],
      ∃ signed' ∈ [approval aliceKey "0" aliceKey, approval bobKey "1" bobKey],
        (poll [aliceKey, bobKey]).Authentic signed 0 .approveChoice ∧
        (poll [aliceKey, bobKey]).Authentic signed' 1 .approveChoice ∧
        keyBytes signed.signerKey ≠ keyBytes signed'.signerKey := by
  refine ((roster_keys_distinct_iff library (poll [aliceKey, bobKey]) (Poll.rosterValid_iff.mp (by decide +kernel)) rfl).mpr
    ?_).2 _ 0 1 (by decide) (by decide +kernel) (by decide +kernel)
  rintro (_ | _ | i) (_ | _ | j) member member' found found' different - same <;> cases found <;> cases found' <;>
    first | exact different rfl | exact absurd same (by decide +kernel)

/-- One key in small and in capital letters is two texts: the roster is accepted, and one private key gives two approvals. -/
theorem one_key_two_approvals :
    (poll [aliceKey, capitalKey]).Valid ∧ keyBytes ⟨aliceKey⟩ = keyBytes ⟨capitalKey⟩ ∧
      (keyBytes ⟨aliceKey⟩).any library.isKey = true ∧
      ((poll [aliceKey, capitalKey]).evidence
        [approval aliceKey "0" aliceKey, approval aliceKey "1" capitalKey]).approvals = [true, true] :=
  ⟨Poll.rosterValid_iff.mp (by decide +kernel), by decide +kernel, by decide +kernel, by decide +kernel⟩

end ConvergeAudit.Quorum
