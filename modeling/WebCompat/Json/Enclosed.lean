import WebCompat.Json.Reader

/-!
Entries between an opening and a closing mark, with a comma between each two: the common
part of lists and objects. Entries are taken one after another into a state, from after the
opening mark up to and including the closing one.
-/

namespace WebCompat.Json

open WebCompat.Text (Taken)

/-- The closing mark of a list or an object, and the faults of what surrounds its entries. -/
structure Enclosure where
  closing : Char
  /-- The document ends where an entry, a comma or the closing mark could stand. -/
  atEnd : Cause
  /-- Something else follows an entry. -/
  afterEntry : Cause
  /-- The closing mark follows a comma. -/
  closingAfterComma : Cause
  /-- The document ends after a comma. -/
  endAfterComma : Cause

variable {σ : Type}

/-- Takes what follows an entry: the closing mark, or a comma and another entry and so on. -/
def moreEntries (enclosure : Enclosure) (entry : σ → Reader σ) (state : σ) : Reader σ :=
  fun text =>
    match skipSpace text, skipSpace_length_le text with
    | [], _ => .error (.next enclosure.atEnd [])
    | c :: rest, le =>
        if c = enclosure.closing then .ok ⟨state, rest, le⟩
        else if c = ',' then
          match skipSpace rest, skipSpace_length_le rest with
          | [], _ => .error (.next enclosure.endAfterComma [])
          | d :: others, leOthers =>
              if d = enclosure.closing then
                .error (.next enclosure.closingAfterComma (d :: others))
              else
                match entry state (d :: others) with
                | .error fault => .error fault
                | .ok taken =>
                    have shorter : taken.rest.length < text.length := by
                      have := taken.shorter
                      simp only [List.length_cons] at this le leOthers
                      omega
                    match moreEntries enclosure entry taken.value taken.rest with
                    | .error fault => .error fault
                    | .ok more => .ok (more.widen (Nat.le_of_lt shorter))
        else .error (.next enclosure.afterEntry (c :: rest))
termination_by text => text.length

/-- Takes all entries: none if the closing mark comes first. -/
def entries (enclosure : Enclosure) (entry : σ → Reader σ) (state : σ) : Reader σ :=
  fun text =>
    match skipSpace text, skipSpace_length_le text with
    | [], _ => .error (.next enclosure.atEnd [])
    | c :: rest, le =>
        if c = enclosure.closing then .ok ⟨state, rest, le⟩
        else
          match entry state (c :: rest) with
          | .error fault => .error fault
          | .ok taken =>
              match moreEntries enclosure entry taken.value taken.rest with
              | .error fault => .error fault
              | .ok more =>
                  .ok (more.widen (Nat.le_trans (Nat.le_of_lt taken.shorter) le))

end WebCompat.Json
