/-!
# Powers

A power of natural numbers or integers with a natural exponent is the one of the core language,
also where a library in sight has powers of its own.
-/

attribute [instance (20000)] instPowNat
attribute [default_instance 20000] instPowNat
