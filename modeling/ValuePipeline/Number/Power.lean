/-!
# Powers

The powers of natural numbers and of integers are those of the core library.  A module
that knows other ways to take a power takes it in this one too.
-/

attribute [instance (2000)] instPowNat
attribute [default_instance 20000] instPowNat
