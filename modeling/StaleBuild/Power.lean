/-!
Powers with natural exponents. They are the core library's wherever a module is read, also beside a library
that derives the powers of numbers from a wider algebra.
-/

attribute [default_instance 20000, instance (2000)] instPowNat
