import WebBaseline.Proofs.Table.Export

/-!
# The schema of a table

A document is read as a table exactly when it has a list of features whose rows are records with all
that is required, and when no id and no key is written twice.  `Schema` says so field by field, with
values as they stand in the document; ids and keys are compared by the texts they are written out
as, so that a number and its digits count as the same.
-/

namespace WebBaseline.Table

/-- A document is read in three steps: its list of features is found, every entry of the list is
read, and the features are put together. -/
theorem ofDatum_eq_ok_iff {document : Datum} {t : Table} :
    ofDatum document = .ok t ↔
      ∃ top raw features, document = .record top ∧
        Datum.lookup top "features" = some (.list raw) ∧
        featuresFrom 0 raw = .ok features ∧ Consistent features ∧
        t = { version := ((Datum.lookup top "version").getD (.text "unversioned")).shown
              features } := by
  constructor
  · intro h
    unfold ofDatum at h
    split at h
    case h_2 => simp at h
    case h_1 top =>
      split at h
      case h_2 => simp at h
      case h_1 raw hraw =>
        have hlookup : Datum.lookup top "features" = some (.list raw) := by
          unfold Datum.get at hraw
          cases hfeatures : Datum.lookup top "features" with
          | none => simp [hfeatures] at hraw
          | some v => simpa [hfeatures] using hraw
        split at h
        case h_1 => simp at h
        case h_2 features hfeatures =>
          obtain ⟨hconsistent, rfl⟩ := ofFeatures_eq_ok_iff.mp h
          exact ⟨top, raw, features, rfl, hlookup, hfeatures, hconsistent, rfl⟩
  · rintro ⟨top, raw, features, rfl, hlookup, hfeatures, hconsistent, rfl⟩
    have hget : Datum.get top "features" = .list raw := by simp [Datum.get, hlookup]
    simp only [ofDatum, hget, hfeatures]
    exact ofFeatures_eq_ok_iff.mpr ⟨hconsistent, rfl⟩

/-- A number and the text of its digits are the same id. -/
example :
    ofDatum (.record [(.text "features", .list
      [.record [(.text "id", .int 1), (.text "name", .text "a"), (.text "group", .text "css")],
       .record [(.text "id", .text "1"), (.text "name", .text "b"),
         (.text "group", .text "css")]])]) = .error (.duplicateId "1") := rfl

end WebBaseline.Table
