import Mathlib
import ShipSlap.Token.Fields
import ShipSlap.Name.Topic
import ShipSlap.Proofs.Text.Utf8
/-!
What the signed bytes of an advertisement determine. The signature covers the four unsigned
fields concatenated with no delimiters and no lengths. The tag is four bytes and the first byte
of a readable identity key fixes its length, so the concatenation pins the protocol and the
identity; but nothing marks where the domain ends and the name begins.

1. `flattenForSigning_eq_iff`: two advertisement field lists sign the same bytes exactly when
   they carry the same tag, the same identity and the same bytes of domain followed by name.
2. `flattenForSigning_shifted_boundary`: the domain `a` with the name `bc` and the domain `ab`
   with the name `c` are both well-formed advertisements of one identity that sign the same
   bytes, so one signature serves two different claims.
-/
namespace ShipSlap

open Secp256k1

/-- A field list shaped as an unsigned advertisement: a protocol tag, an identity key that reads
as a public key, and a domain and a bare name in UTF-8 whose full name is a valid name. -/
def AdvertisementShaped : List Bytes → Prop
  | [tag, identity, domain, name] =>
    ∃ p key d n, Protocol.ofTagBytes? tag = some p ∧ PublicKey.ofBytes identity = .ok key ∧
      Text.decodeUtf8? domain = some d ∧ Text.decodeUtf8? name = some n ∧
      Name.validate (p.fullName n) = .ok ()
  | _ => False

/-- Both protocol tags are four bytes. -/
theorem length_of_ofTagBytes? {tag : Bytes} {p : Protocol} (h : Protocol.ofTagBytes? tag = some p) :
    tag.length = 4 := by
  unfold Protocol.ofTagBytes? at h
  split at h
  · rename_i htag
    rw [htag, Bytes.length_ofString]
    decide
  · split at h
    · rename_i htag
      rw [htag, Bytes.length_ofString]
      decide
    · cases h

theorem Protocol.ofTagBytes?_ship : Protocol.ofTagBytes? (Bytes.ofString "SHIP") = some .ship :=
  if_pos rfl

/-- A readable public key is its tag byte and 32 bytes, or 64 after the tag `04`. -/
theorem PublicKey.length_of_ofBytes {bs : Bytes} {key : PublicKey}
    (h : PublicKey.ofBytes bs = .ok key) :
    ∃ b rest, bs = b :: rest ∧ rest.length = if b = 4 then 64 else 32 := by
  unfold PublicKey.ofBytes at h
  split at h
  · rename_i x y hpt
    unfold Point.ofBytes? at hpt
    split at hpt
    · cases hpt
    · rename_i tag rest _
      refine ⟨tag, rest, rfl, ?_⟩
      split at hpt
      · rename_i hc
        have h4 : tag ≠ 4 := by rcases hc.1 with rfl | rfl <;> decide
        simp [h4, hc.2]
      · split at hpt
        · rename_i _ hc
          have h4 : tag ≠ 4 := by rw [hc.1]; decide
          simp [h4, hc.2]
        · split at hpt
          · rename_i _ _ hc
            simp [hc.1, hc.2]
          · cases hpt
    · cases hpt
  · cases h

/-- **The signed bytes fix the tag and the identity, and only the concatenation of domain and
name.** -/
theorem flattenForSigning_eq_iff {tag identity domain name tag' identity' domain' name' : Bytes}
    (hf : AdvertisementShaped [tag, identity, domain, name])
    (hg : AdvertisementShaped [tag', identity', domain', name']) :
    flattenForSigning [tag, identity, domain, name] =
        flattenForSigning [tag', identity', domain', name'] ↔
      tag = tag' ∧ identity = identity' ∧ domain ++ name = domain' ++ name' := by
  obtain ⟨p, key, -, -, hp, hkey, -, -, -⟩ := hf
  obtain ⟨p', key', -, -, hp', hkey', -, -, -⟩ := hg
  simp only [flattenForSigning, List.flatten_cons, List.flatten_nil, List.append_nil]
  constructor
  · intro hflat
    -- the tags are four bytes each
    obtain ⟨htag, hafter⟩ := List.append_inj hflat
      (by rw [length_of_ofTagBytes? hp, length_of_ofTagBytes? hp'])
    -- the first byte of the identity, the same in both, fixes its length
    obtain ⟨b, rest, rfl, hlen⟩ := PublicKey.length_of_ofBytes hkey
    obtain ⟨b', rest', rfl, hlen'⟩ := PublicKey.length_of_ofBytes hkey'
    simp only [List.cons_append, List.cons.injEq] at hafter
    obtain ⟨hb, hrest⟩ := hafter
    subst hb
    obtain ⟨hid, hnames⟩ := List.append_inj hrest (by rw [hlen, hlen'])
    exact ⟨htag, by rw [hid], hnames⟩
  · rintro ⟨rfl, rfl, h⟩
    rw [h]

/-- The uncompressed encoding of the base point, an identity key every reader accepts. -/
def baseIdentityBytes : Bytes :=
  Bytes.ofNat 65 0x0479be667ef9dcbbac55a06295ce870b07029bfcdb2dce28d959f2815b16f81798483ada7726a3c4655da4fbfc0e1108a8fd17b448a68554199c47d08ffb10d4b8

/-- A SHIP advertisement of the base point's identity for the domain `a` and the name `bc`. -/
def boundaryFieldsLeft : List Bytes :=
  [Bytes.ofString "SHIP", baseIdentityBytes, Bytes.ofString "a", Bytes.ofString "bc"]

/-- The same advertisement with the boundary moved: the domain `ab` and the name `c`. -/
def boundaryFieldsRight : List Bytes :=
  [Bytes.ofString "SHIP", baseIdentityBytes, Bytes.ofString "ab", Bytes.ofString "c"]

theorem ofBytes_baseIdentityBytes : PublicKey.ofBytes baseIdentityBytes = .ok ⟨Point.base⟩ := by
  decide

theorem advertisementShaped_boundaryFieldsLeft : AdvertisementShaped boundaryFieldsLeft :=
  ⟨.ship, ⟨Point.base⟩, "a", "bc", Protocol.ofTagBytes?_ship, ofBytes_baseIdentityBytes,
    Text.decodeUtf8?_ofString "a", Text.decodeUtf8?_ofString "bc", by decide⟩

theorem advertisementShaped_boundaryFieldsRight : AdvertisementShaped boundaryFieldsRight :=
  ⟨.ship, ⟨Point.base⟩, "ab", "c", Protocol.ofTagBytes?_ship, ofBytes_baseIdentityBytes,
    Text.decodeUtf8?_ofString "ab", Text.decodeUtf8?_ofString "c", by decide⟩

/-- One signature, two claims: the two advertisements above are well formed, differ, and sign
the same bytes. -/
theorem flattenForSigning_shifted_boundary :
    AdvertisementShaped boundaryFieldsLeft ∧ AdvertisementShaped boundaryFieldsRight ∧
      flattenForSigning boundaryFieldsLeft = flattenForSigning boundaryFieldsRight ∧
      boundaryFieldsLeft ≠ boundaryFieldsRight :=
  -- the boundary moves inside one text, `abc`, whose bytes are the same either way
  have hmoved :
      Bytes.ofString "a" ++ Bytes.ofString "bc" = Bytes.ofString "ab" ++ Bytes.ofString "c" := by
    rw [← Bytes.ofString_append, ← Bytes.ofString_append]
    rfl
  have hdomain : Bytes.ofString "a" ≠ Bytes.ofString "ab" :=
    Function.Injective.ne Bytes.ofString_injective (by decide)
  ⟨advertisementShaped_boundaryFieldsLeft, advertisementShaped_boundaryFieldsRight,
    by simp only [flattenForSigning, boundaryFieldsLeft, boundaryFieldsRight, List.flatten_cons,
      List.flatten_nil, List.append_nil, hmoved],
    by simp only [boundaryFieldsLeft, boundaryFieldsRight, ne_eq, List.cons.injEq, hdomain,
      false_and, and_false, not_false_eq_true]⟩

/-- The law at the two advertisements: they sign the same bytes because they agree on the tag,
the identity, and the domain followed by the name. -/
theorem flattenForSigning_eq_iff_boundary :
    AdvertisementShaped boundaryFieldsLeft ∧ AdvertisementShaped boundaryFieldsRight ∧
      (flattenForSigning boundaryFieldsLeft = flattenForSigning boundaryFieldsRight ↔
        Bytes.ofString "SHIP" = Bytes.ofString "SHIP" ∧ baseIdentityBytes = baseIdentityBytes ∧
          Bytes.ofString "a" ++ Bytes.ofString "bc" = Bytes.ofString "ab" ++ Bytes.ofString "c") :=
  ⟨advertisementShaped_boundaryFieldsLeft, advertisementShaped_boundaryFieldsRight,
    flattenForSigning_eq_iff advertisementShaped_boundaryFieldsLeft
      advertisementShaped_boundaryFieldsRight⟩

end ShipSlap
