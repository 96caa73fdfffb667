set_option autoImplicit false

/-!
# Powers

The widths of the wire, of an offset and of a decimal are powers of numbers. They are those
of the core library, which compute. `high`, so that the powers of monoids do not displace them
in a module that knows of monoids.
-/

attribute [instance (high), default_instance (high + 1)] instPowNat
