import LockGateway.Proofs.Json.RoundTrip
import LockGateway.Signing

/-! Typed data on its way to a wallet. MetaMask takes it as a text and other wallets as it is, and
the text says neither more nor less than the data. -/

namespace LockGateway

/-- Data that a wallet can read: without floating-point numbers, and not nested deeper than values
are read. -/
structure Json.Readable (data : Json) : Prop where
  within : data.Within Json.greatestDepth
  free : data.FloatFree

theorem Json.Readable.parse_text {data : Json} (readable : data.Readable) :
    Json.parse data.text = some data :=
  (Json.parse_text_iff readable.free).mpr readable.within

theorem Json.Readable.text_eq_iff {data other : Json} (readable : data.Readable)
    (otherReadable : other.Readable) : other.text = data.text ↔ other = data := by
  constructor
  · intro same
    have read := otherReadable.parse_text
    rw [same, readable.parse_text] at read
    exact (Option.some.inj read).symm
  · exact congrArg Json.text

/-- The text that MetaMask is given is read as the data that other wallets are given, for the same
account, and no other data has that text. -/
theorem typed_data_text (account : Address) {data : Json} (readable : data.Readable) :
    ∃ text,
      typedDataRequest .metaMask account data =
          ("eth_signTypedData_v3", .list [.string account.checksumText, .string text]) ∧
        typedDataRequest .generic account data =
          ("eth_signTypedData", .list [.string account.checksumText, data]) ∧
        Json.parse text = some data ∧
        ∀ holder other, other.Readable → ∃ written,
          typedDataRequest .metaMask holder other =
              ("eth_signTypedData_v3", .list [.string holder.checksumText, .string written]) ∧
            (written = text ↔ other = data) := by
  refine ⟨data.text, rfl, rfl, readable.parse_text, ?_⟩
  intro holder other otherReadable
  exact ⟨other.text, rfl, readable.text_eq_iff otherReadable⟩

/-- Data with every kind of value but a floating-point number, and with signs that are escaped. -/
def mixedData : Json :=
  .object
    [("", .null), ("list", .list [.boolean true, .integer ⟨-1, by decide, by decide⟩, .list []]),
     ("text", .string "\"\\\n\x01é")]

theorem mixed_data_text :
    mixedData.Readable ∧
      ∃ text,
        typedDataRequest .metaMask .zero mixedData =
            ("eth_signTypedData_v3", .list [.string Address.zero.checksumText, .string text]) ∧
          typedDataRequest .generic .zero mixedData =
            ("eth_signTypedData", .list [.string Address.zero.checksumText, mixedData]) ∧
          Json.parse text = some mixedData ∧
          ∀ holder other, other.Readable → ∃ written,
            typedDataRequest .metaMask holder other =
                ("eth_signTypedData_v3", .list [.string holder.checksumText, .string written]) ∧
              (written = text ↔ other = mixedData) := by
  have readable : mixedData.Readable := by
    constructor
    · apply Json.Within.object
      · unfold Json.Ascending
        decide
      · simp only [List.forall_mem_cons]
        refine ⟨.null, .list ?_, .string _, List.forall_mem_nil _⟩
        simp only [List.forall_mem_cons]
        exact ⟨.boolean true, .integer _, .list (List.forall_mem_nil _), List.forall_mem_nil _⟩
    · apply Json.FloatFree.object
      simp only [List.forall_mem_cons]
      refine ⟨.null, .list ?_, .string _, List.forall_mem_nil _⟩
      simp only [List.forall_mem_cons]
      exact ⟨.boolean true, .integer _, .list (List.forall_mem_nil _), List.forall_mem_nil _⟩
  exact ⟨readable, typed_data_text .zero readable⟩

end LockGateway
