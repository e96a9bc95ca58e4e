/-!
# The instances that numbers and texts use

Powers, sums and the order of texts are those of the core library. A theory built on top of
it brings its own, equal but not the same, and without a priority the last ones in scope
would be taken: a definition would then mean another term wherever more is imported.
-/

attribute [instance (1100)] instPowNat List.instLE List.decidableLE

-- The exponent of two literals is found by default, and the library above asks for `high` there.
attribute [default_instance 10100] instPowNat

namespace RemoteInterpreter

instance (priority := 1100) zeroOfLiteral : Zero Nat := Zero.ofOfNat0

end RemoteInterpreter
