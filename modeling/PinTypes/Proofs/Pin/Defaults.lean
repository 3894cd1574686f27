import PinTypes.Pin.Value
import PinTypes.Proofs.Enumeration.Selection
import PinTypes.Proofs.Scalar.Exchange
import PinTypes.Proofs.Text.Blank

/-!
# `PinTypes.Proofs.Pin.Defaults` — defaults that come back

Coercion and sending are two separate case analyses over the kinds, with rules of their own: coercion trims
addresses, cuts off fractions and refuses null, sending writes members that coercion never reads. What ties
them together is the set of values that coercion can end in. `PinValue.Fits` names it, one rule for each
kind; whatever comes in, the default of a kind is among them (`PinValue.fits_initial`), and each of them is
read back as itself, null standing for the values that cannot be coerced from anything
(`PinValue.Fits.initial_toJson`).

## Contents
- **Values of a kind.** `MediaReference.Tidy`, `PinValue.Fits`.
- **Coming in.** `PinValue.fits_of_coerce?`, `PinValue.fits_initial`.
- **Going out and coming in.** `EnumType.Unambiguous`, `PinValue.Fits.initial_toJson`.
- **Main statement.** `PinValue.initial_toJson_initial`.
-/

namespace PinTypes

open PinTypes.Text (trimmed)

/-! ## Values of a kind -/

/-- A reference of that family whose address is trimmed and not empty. -/
structure MediaReference.Tidy (r : MediaReference) (family : MediaKind) : Prop where
  family_eq : r.kind = family
  trimmed_uri : trimmed r.uri = r.uri
  uri_ne_empty : r.uri ≠ ""

namespace PinValue

/-- The values that a default of a kind can have. -/
inductive Fits : PinKind → PinValue → Prop where
  | text (s : String) : Fits .text (.text s)
  | integer (i : Int64) : Fits .integer (.integer i)
  | float (x : Double.Finite) : Fits .float (.float (.finite x))
  | boolean (b : Bool) : Fits .boolean (.boolean b)
  | textList (items : List String) : Fits .textList (.textList items)
  | object (value : Json) : Fits .object (.object value)
  | dateTime (t : Instant) : Fits .dateTime (.dateTime t)
  /-- A type without members has a position all the same. -/
  | enumeration {t : EnumType} {ordinal : Nat} (inside : ordinal < t.size ∨ t.size = 0 ∧ ordinal = 0) :
      Fits (.enumeration t) (.enumeration t ordinal)
  | noMedia (family : MediaKind) : Fits (.media family) (.media none)
  | media {family : MediaKind} {r : MediaReference} (tidy : r.Tidy family) :
      Fits (.media family) (.media (some r))

/-- A value of an enumerated kind holds the very type of the kind. -/
theorem Fits.exists_ordinal {t : EnumType} {v : PinValue} (h : Fits (.enumeration t) v) :
    ∃ i, v = .enumeration t i ∧ (i < t.size ∨ t.size = 0 ∧ i = 0) := by
  cases h with
  | enumeration inside => exact ⟨_, rfl, inside⟩

theorem Fits.exists_finite {v : PinValue} (h : Fits .float v) :
    ∃ x : Double.Finite, v = .float (.finite x) := by
  cases h with
  | float x => exact ⟨x, rfl⟩

theorem Fits.exists_reference {family : MediaKind} {v : PinValue} (h : Fits (.media family) v) :
    v = .media none ∨ ∃ r : MediaReference, v = .media (some r) ∧ r.Tidy family := by
  cases h with
  | noMedia => exact Or.inl rfl
  | media tidy => exact Or.inr ⟨_, rfl, tidy⟩

/-! ## Coming in -/

theorem fits_blank (kind : PinKind) : Fits kind (blank kind) := by
  cases kind with
  | text => exact .text ""
  | integer => exact .integer 0
  | float => exact .float _
  | boolean => exact .boolean false
  | textList => exact .textList []
  | object => exact .object .null
  | dateTime => exact .dateTime .epoch
  | media family => exact .noMedia family
  | enumeration t =>
    rcases Nat.eq_zero_or_pos t.size with hsize | hsize
    · exact .enumeration (Or.inr ⟨hsize, rfl⟩)
    · exact .enumeration (Or.inl hsize)

/-- A number that is read is finite. -/
theorem exists_of_floatOf? {x : Json} {d : Double} (h : floatOf? x = some d) :
    ∃ y, d = .finite y := by
  cases x with
  | number n =>
    obtain ⟨y, hy⟩ := n.exists_toDouble
    rw [floatOf?, hy] at h
    exact ⟨y, (Option.some.inj h).symm⟩
  | string s =>
    obtain ⟨_, hfinite⟩ := Option.filter_eq_some_iff.mp h
    cases d with
    | finite y => exact ⟨y, rfl⟩
    | nan => cases hfinite
    | infinity => cases hfinite
  | _ => cases h

/-- An address that is read is trimmed and not empty. -/
theorem trimmed_of_addressOf? {x : Json} {uri : String} (h : addressOf? x = some uri) :
    trimmed uri = uri ∧ uri ≠ "" := by
  cases x with
  | string s =>
    rw [addressOf?] at h
    split at h
    · cases h
    · next hne =>
      obtain rfl := Option.some.inj h
      exact ⟨Text.trimmed_trimmed s, hne⟩
  | _ => cases h

theorem tidy_of_mediaOf? {family : MediaKind} {x : Json} {r : MediaReference}
    (h : mediaOf? family x = some r) : r.Tidy family := by
  -- an object and a bare string have their address read by the same rule
  have hadr : ∃ uri id, r = ⟨family, uri, id⟩ ∧ ∃ y, addressOf? y = some uri := by
    cases x with
    | object members =>
      simp only [mediaOf?, Option.bind_eq_bind, Option.bind_eq_some_iff, Option.pure_def,
        Option.some.injEq] at h
      obtain ⟨uri, ⟨y, _, hy⟩, rfl⟩ := h
      exact ⟨uri, _, rfl, y, hy⟩
    | _ =>
      simp only [mediaOf?, Option.map_eq_some_iff] at h
      obtain ⟨uri, hy, rfl⟩ := h
      exact ⟨uri, none, rfl, _, hy⟩
  obtain ⟨uri, id, rfl, y, hy⟩ := hadr
  obtain ⟨htrimmed, hne⟩ := trimmed_of_addressOf? hy
  exact ⟨rfl, htrimmed, hne⟩

/-- **Coercion ends in a value of the kind.** -/
theorem fits_of_coerce? {kind : PinKind} {x : Json} {v : PinValue} (h : coerce? kind x = some v) :
    Fits kind v := by
  cases kind with
  | text => obtain ⟨s, _, rfl⟩ := Option.map_eq_some_iff.mp h; exact .text s
  | integer => obtain ⟨i, _, rfl⟩ := Option.map_eq_some_iff.mp h; exact .integer i
  | boolean => obtain ⟨b, _, rfl⟩ := Option.map_eq_some_iff.mp h; exact .boolean b
  | textList => obtain ⟨items, _, rfl⟩ := Option.map_eq_some_iff.mp h; exact .textList items
  | object => obtain ⟨y, _, rfl⟩ := Option.map_eq_some_iff.mp h; exact .object y
  | dateTime => obtain ⟨t, _, rfl⟩ := Option.map_eq_some_iff.mp h; exact .dateTime t
  | float =>
    obtain ⟨d, hd, rfl⟩ := Option.map_eq_some_iff.mp h
    obtain ⟨y, rfl⟩ := exists_of_floatOf? hd
    exact .float y
  | media family =>
    obtain ⟨r, hr, rfl⟩ := Option.map_eq_some_iff.mp h
    exact .media (tidy_of_mediaOf? hr)
  | enumeration t =>
    obtain rfl := Option.some.inj h
    rcases Nat.eq_zero_or_pos t.size with hsize | hsize
    · exact .enumeration (Or.inr ⟨hsize, t.ordinalOf_eq_zero hsize x⟩)
    · exact .enumeration (Or.inl (t.ordinalOf_lt_size hsize x))

/-- **Every default is a value of its kind.** -/
theorem fits_initial (kind : PinKind) (value : Option Json) : Fits kind (initial kind value) := by
  unfold initial
  cases h : value.bind (coerce? kind) with
  | none => exact fits_blank kind
  | some v =>
    obtain ⟨x, _, hx⟩ := Option.bind_eq_some_iff.mp h
    exact fits_of_coerce? hx

end PinValue

/-! ## Going out and coming in -/

/-- A type whose members can be told apart by what is sent for them: each is a scalar that JSON can carry,
    and no two share the key that they are found by. -/
structure EnumType.Unambiguous (t : EnumType) : Prop where
  received : ∀ s ∈ t.variants, s.Received
  keys_nodup : (t.variants.map t.matchKey).Nodup

/-- The JSON of a received scalar selects what the scalar selects. -/
theorem EnumType.select_toJson {s : Scalar} (hs : s.Received) (t : EnumType) :
    t.select s.toJson = t.select s := by
  show t.select (Scalar.ofJson s.toJson) = t.select s
  rw [hs.ofJson_toJson]

/-- The scalar that is sent for a member selects that member. -/
theorem EnumType.Unambiguous.ordinalOf_toJson {t : EnumType} (h : t.Unambiguous) {i : Nat} {s : Scalar}
    (hi : t.valueAt? i = some s) : t.ordinalOf s.toJson = i := by
  have hreceived : s.Received := h.received s (List.mem_of_getElem? hi)
  rw [EnumType.ordinalOf, EnumType.select_toJson hreceived,
    EnumType.select_variant_of_nodup h.keys_nodup hi]

namespace PinValue

theorem toJson_enumeration {t : EnumType} {i : Nat} {s : Scalar} (hi : t.valueAt? i = some s) :
    (enumeration t i).toJson = s.toJson := by
  simp only [toJson, hi]

theorem initial_of_coerce? {kind : PinKind} {x : Json} {v : PinValue} (h : coerce? kind x = some v) :
    initial kind (some x) = v := by
  simp [initial, h]

theorem member?_uri_mediaMembers (r : MediaReference) :
    Json.member? (mediaMembers r) "uri" = some (.string r.uri) := by
  obtain ⟨family, uri, assetId⟩ := r
  cases assetId <;> simp [mediaMembers, Json.member?]

theorem member?_asset_mediaMembers (r : MediaReference) :
    (Json.member? (mediaMembers r) "asset_id").bind stringOf? = r.assetId := by
  obtain ⟨family, uri, assetId⟩ := r
  cases assetId <;> simp [mediaMembers, Json.member?, stringOf?]

/-- The members of a tidy reference are read as the reference. -/
theorem mediaOf?_mediaMembers {family : MediaKind} {r : MediaReference} (h : r.Tidy family) :
    mediaOf? family (.object (mediaMembers r)) = some r := by
  obtain ⟨rfl, htrimmed, hne⟩ := h
  have hadr : addressOf? (.string r.uri) = some r.uri := by simp [addressOf?, htrimmed, hne]
  simp [mediaOf?, member?_uri_mediaMembers, member?_asset_mediaMembers, hadr]

theorem initial_of_mediaOf? {family : MediaKind} {x : Json} {r : MediaReference}
    (h : mediaOf? family x = some r) : initial (.media family) (some x) = .media (some r) := by
  apply initial_of_coerce?
  show (mediaOf? family x).map (fun r => PinValue.media (some r)) = _
  rw [h]
  rfl

theorem textListOf?_strings (items : List String) :
    textListOf? (.array (items.map .string)) = some items := by
  have hitems : (itemText ∘ Json.string) = id := rfl
  simp [textListOf?, hitems]

/-- **A value of a kind is read back as itself.** Instants are left out: their text has rules of its
    own. -/
theorem Fits.initial_toJson {kind : PinKind} {v : PinValue} (h : Fits kind v) (hkind : kind ≠ .dateTime)
    (htype : ∀ t, kind = .enumeration t → t.Unambiguous) : initial kind (some v.toJson) = v := by
  cases h with
  | text s => rfl
  | float x => rfl
  | boolean b => rfl
  | dateTime t => exact absurd rfl hkind
  | noMedia family => rfl
  | integer i =>
    apply initial_of_coerce?
    simp [coerce?, toJson, integerOf?, Json.ofInt64, Json.Number.int64?, Number.toInt64?_toInt]
  | textList items =>
    apply initial_of_coerce?
    show (textListOf? (.array (items.map .string))).map PinValue.textList = some (.textList items)
    rw [textListOf?_strings]
    rfl
  | object value =>
    -- null is the one value that is refused, and the blank object is null
    cases value <;> rfl
  | media tidy => exact initial_of_mediaOf? (mediaOf?_mediaMembers tidy)
  | @enumeration t ordinal inside =>
    apply initial_of_coerce?
    rcases inside with hlt | ⟨hsize, rfl⟩
    · -- the scalar of the member goes through JSON and selects by its key
      have hi : t.valueAt? ordinal = some t.variants[ordinal] := List.getElem?_eq_getElem hlt
      simp only [toJson_enumeration hi, coerce?, (htype t rfl).ordinalOf_toJson hi]
    · -- nothing can be sent for a position of an empty type; null selects the first one again
      simp only [coerce?, t.ordinalOf_eq_zero hsize]

/-- **A default that was sent out comes back.** Whatever is given for a pin of any kind but instants, the
    default it is coerced to is unchanged when its JSON is coerced again. -/
theorem initial_toJson_initial (kind : PinKind) (value : Option Json) (hkind : kind ≠ .dateTime)
    (htype : ∀ t, kind = .enumeration t → t.Unambiguous) :
    initial kind (some (initial kind value).toJson) = initial kind value :=
  (fits_initial kind value).initial_toJson hkind htype

/-- A minted type of a number, a word and null. -/
def sizeType : EnumType := .minted ⟨⟨0, 0⟩, .make "Size" [.int 2, .string "Big", .null]⟩

theorem sizeType_unambiguous : sizeType.Unambiguous where
  received := by
    intro s hs
    have hcases : s = .int 2 ∨ s = .string "Big" ∨ s = .null := by
      simpa [sizeType, EnumType.variants] using hs
    rcases hcases with rfl | rfl | rfl
    · exact ⟨.ofInt64 2, Scalar.ofJson_ofInt64 2⟩
    · exact ⟨.string "Big", rfl⟩
    · exact ⟨.null, rfl⟩
  keys_nodup := by decide

/-- A padded word in other letters is the second member, and comes back as the second member. An image whose
    address is padded is referred to by the trimmed address, under the identifier of its asset, and comes back
    with both. -/
theorem initial_toJson_initial_sizeType_image :
    (let kind := PinKind.enumeration sizeType
      let value := some (Json.string " bIG ")
      kind ≠ .dateTime ∧ (∀ t, kind = .enumeration t → t.Unambiguous) ∧
        (initial kind value).ordinal? = some 1 ∧
        initial kind (some (initial kind value).toJson) = initial kind value) ∧
    (let kind := PinKind.media .image
      let value := some (Json.object [("asset_id", .string "7"), ("uri", .string " a/b.png ")])
      kind ≠ .dateTime ∧ (∀ t, kind = .enumeration t → t.Unambiguous) ∧
        initial kind value = .media (some ⟨.image, "a/b.png", some "7"⟩) ∧
        initial kind (some (initial kind value).toJson) = initial kind value) := by
  have henum : PinKind.enumeration sizeType ≠ .dateTime := nofun
  have htype : ∀ t, PinKind.enumeration sizeType = .enumeration t → t.Unambiguous := by
    rintro t ⟨⟩
    exact sizeType_unambiguous
  have hmedia : PinKind.media .image ≠ .dateTime := nofun
  have hnone : ∀ t, PinKind.media .image = .enumeration t → t.Unambiguous := nofun
  have hread : mediaOf? .image (.object [("asset_id", .string "7"), ("uri", .string " a/b.png ")]) =
      some ⟨.image, "a/b.png", some "7"⟩ := by decide
  exact ⟨⟨henum, htype, by decide, initial_toJson_initial _ _ henum htype⟩,
    ⟨hmedia, hnone, initial_of_mediaOf? hread, initial_toJson_initial _ _ hmedia hnone⟩⟩

end PinValue

end PinTypes
