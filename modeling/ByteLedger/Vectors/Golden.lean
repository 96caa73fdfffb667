import ByteLedger.Vectors.Basic

set_option autoImplicit false

/-!
# The golden vectors of this library

Ten cases of the window algorithm and nine of the wire text. Each passes, and a lemma
beside each list says so.
-/

namespace ByteLedger

/-- The window cases. -/
def WindowVector.golden : List WindowVector :=
  [{ name := "first window inside frontier"
     geometry := ⟨0, 2048, 1000⟩, requested := 100, limit := 512
     expected := ⟨0, 100, 1000, 512, true⟩ },
   { name := "request before data partition is clamped"
     geometry := ⟨100, 2048, 1000⟩, requested := 50, limit := 512
     expected := ⟨100, 100, 1000, 512, true⟩ },
   { name := "frontier clamped to capacity"
     geometry := ⟨0, 1000, 2000⟩, requested := 100, limit := 512
     expected := ⟨0, 100, 1000, 512, true⟩ },
   { name := "final partial window"
     geometry := ⟨0, 2048, 600⟩, requested := 100, limit := 1024
     expected := ⟨0, 100, 600, 500, false⟩ },
   { name := "window ends exactly at frontier"
     geometry := ⟨0, 4096, 1024⟩, requested := 0, limit := 1024
     expected := ⟨0, 0, 1024, 1024, false⟩ },
   { name := "request at frontier is caught up"
     geometry := ⟨0, 2048, 600⟩, requested := 600, limit := 1024
     expected := .caughtUp 600 },
   { name := "request past frontier is caught up"
     geometry := ⟨0, 2048, 600⟩, requested := 900, limit := 1024
     expected := .caughtUp 600 },
   { name := "request past capacity is caught up"
     geometry := ⟨0, 1000, 2000⟩, requested := 1500, limit := 512
     expected := .caughtUp 1000 },
   { name := "empty ledger with data partition"
     geometry := ⟨4096, 65536, 4096⟩, requested := 0, limit := 1048576
     expected := .caughtUp 4096 },
   { name := "zero window size is caught up"
     geometry := ⟨0, 2048, 1000⟩, requested := 100, limit := 0
     expected := .caughtUp 1000 }]

theorem WindowVector.passes_of_mem_golden :
    ∀ v ∈ golden, v.passes = true := by
  decide

/-- The wire cases. -/
def WireVector.golden : List WireVector :=
  [⟨"canonical response", "position=4096&response_bytes=512&direction=forward&more=true",
      4096, 512, .forward, true⟩,
   ⟨"request form", "position=77", 77, 0, .forward, false⟩,
   ⟨"empty string", "", 0, 0, .forward, false⟩,
   ⟨"backward direction", "direction=backward&position=9", 9, 0, .backward, false⟩,
   ⟨"malformed values default", "position=abc&response_bytes=-5&direction=sideways&more=yes",
      0, 0, .forward, false⟩,
   ⟨"unknown keys ignored", "foo=bar&position=12&baz&more=true", 12, 0, .forward, true⟩,
   ⟨"last duplicate wins", "position=1&position=2", 2, 0, .forward, false⟩,
   ⟨"largest offset", "position=18446744073709551615", Offset.last, 0, .forward, false⟩,
   ⟨"overflowing offset defaults", "position=18446744073709551616", 0, 0, .forward, false⟩]

theorem WireVector.passes_of_mem_golden :
    ∀ v ∈ golden, v.passes = true := by
  decide +kernel

end ByteLedger
