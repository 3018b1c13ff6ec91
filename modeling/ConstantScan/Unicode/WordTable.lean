/-!
# Word characters

Letters, marks, decimal digits, connectors and joiners.
-/

namespace ConstantScan.Unicode

/-- The code points that make up words, written as `Runs.decode` reads them. -/
def wordTable : String :=
  "30-9 7-19 4 1-19 2f a 4 5-16 1-1e 1-1c9 4-b e-4 7 1 11-74 1-1 2-3 1 6 1-2 1 1-13 1-52 1-8a " ++
  "1-ac 1-25 2 6-28 8-2c 1 1-1 1-1 1 8-1a 4-3 1d-a 5-49 4-65 1-7 2-9 1-12 2 10-3a 2-64 e-35 4 2 " ++
  "2-2d 12-1b 4-a 5-17 1-5 8-4a 1-80 2-9 1-12 1-7 2-1 2-15 1-6 1 3-3 2-8 2-1 2-3 8 4-1 1-4 2-b " ++
  "a 1 2-2 1-5 4-1 2-15 1-6 1-1 1-1 1-1 2 1-4 4-1 2-2 3 7-3 1 7-f b-2 1-8 1-2 1-15 1-6 1-1 1-4 " ++
  "2-9 1-2 1-2 2 f-3 2-9 9-6 1-2 1-7 2-1 2-15 1-6 1-1 1-4 2-8 2-1 2-2 7-2 4-1 1-4 2-9 1 10-1 " ++
  "1-5 3-2 1-3 3-1 1 1-1 3-1 3-2 3-b 4-4 3-2 1-3 2 6 e-9 10-c 1-2 1-16 1-f 2-8 1-2 1-3 7-1 1-2 " ++
  "2 2-3 2-9 10-3 1-7 1-2 1-16 1-9 1-4 2-8 1-2 1-3 7-1 6-1 1-3 2-9 1-2 c-c 1-2 1-32 1-2 1-4 5-3 " ++
  "7-4 2-9 a-5 1-2 1-11 3-17 1-8 1 2-6 3 4-5 1 1-7 6-9 2-1 d-39 5-e 1-9 27-1 1 1-4 1-17 1 1-16 " ++
  "2-4 1 1-6 1-9 2-3 20 17-1 6-9 b 1 1 4-9 1-23 4-13 1-11 1-23 9 39-49 6-4d 2-25 1 5 2-2a 1-14c " ++
  "1-3 2-6 1 1-3 2-28 1-3 2-20 1-3 2-6 1 1-3 2-e 1-38 1-3 2-42 2-2 20-f 10-55 2-5 3-26b 2-10 " ++
  "1-19 5-4a 3-a 7-15 9-15 b-13 c-c 1-2 1-1 c-53 3 4-1 2-9 21-2 1-a 6-58 7-2a 5-45 a-1e 1-b 4-b " ++
  "a-27 2-4 b-2b 4-19 6-9 26-1b 4-3e 1-1c 2-a 6-9 d 8-1e 31-4c 3-9 11-8 c-73 c-37 8-9 3-30 2-a " ++
  "5-2a 2-2 10-2 1-26 5-215 2-5 2-25 2-5 2-7 1 1 1 1-1e 2-34 1-6 1 3-2 1-6 3-3 2-5 4-c 5-2 1-6 " ++
  "f-1 31-1 13 1c d 10-c 33-20 11 4 2-9 1 3-4 6 1 1 1-3 1-a 2-3 5-4 4 11-28 32d-33 716-e4 6-8 " ++
  "c-25 1 5 2-37 7 f-17 9-6 1-6 1-6 1-6 1-6 1-6 1-6 1-6 1-1f 2f 1d5-2 19-e 1-4 2-4 4-55 2-1 2-2 " ++
  "1-59 1-3 5-2a 1-5d 11-1f 30-f 200-19bf 40-568c 43-2d 2-10c 3-1b 14-32 1-9 1-72 25-8 2-66 " ++
  "2-42 2-1 1 1-7 15-35 4 13-33 c-45 a-9 6-17 3 1-30 2-23 c-1c 3-40 e-a 6-1e 1-36 9-d 2-9 6-16 " ++
  "3-48 18-2 2-f 2-4 a-5 2-5 2-5 9-6 1-6 1-2a 1-d 6-7a 1-1 2-9 6-2ba3 c-16 4-30 2104-16d 2-69 " ++
  "26-6 c-4 5-b 1-c 1-4 1 1-1 1-1 1-6b 21-16a 12-3f 2-35 28-b 4-f 10-f 3-1 18-2 20-4 1-86 13-9 " ++
  "7-19 4 1-19 b-58 3-5 2-5 2-5 2-2 23-b 1-19 1-12 1-1 1-e 2-d 22-7a 45-34 88 82-1c 3-30 f " ++
  "1f-1f d-1d 5-2a 5-1d 2-23 4-7 1-4 2a-9d 2-9 6-23 4-23 4-27 8-33 c-a 1-e 1-6 1-1 1-a 1-e 1-6 " ++
  "1-1 3-33 c-136 9-15 a-7 18-5 1-29 1-8 45-5 2 1-2b 1-1 3 2-16 a-16 9-1e 41-12 1-1 a-15 a-19 " ++
  "46-37 6-1 40-3 1-1 5-7 1-2 1-1c 2-2 4 20-1c 3-1c 23-7 1-1d 19-35 a-15 a-12 d-11 6e-48 37-32 " ++
  "d-32 d-27 8-9 6-25 3-4 1-16 fa-29 1-1 3-1 10-2 37-20 a 8-20 1f-15 2a-14 1b-16 9-46 1f-f 9-3b " ++
  "7 d-18 7-9 6-34 1-9 4-3 8-23 2 9-44 4-3 1-c 1 23-11 1-24 6-3 3e-6 1 1-3 1-e 1-9 7-3a 5-9 6-3 " ++
  "1-7 2-1 2-15 1-6 1-1 1-4 1-9 2-1 2-2 2 6 5-6 2-6 3-4 b-9 1 2 1-25 1-9 1 2 1-3 1-7 d-1 1d-4a " ++
  "5-9 4-3 1e-45 1 8-9 a6-35 2-8 17-5 22-40 3 b-9 26-38 7-9 6-13 1c-1a 2-e 4-9 6-6 b9-3a 65-49 " ++
  "15-7 2 2-7 1-1 1-1d 1-1 2-8 c-9 46-7 2-2d 2-7 1-1 1b-3e 8 8-49 3 12-48 c7-20 f-9 6-8 1-2c " ++
  "1-8 f-9 18-1d 2-15 1-d 49-6 1-1 1-2b 3 1-1 1-8 8-9 6-5 1-1 1-24 1-1 1-5 7-9 136-16 9-10 1-28 " ++
  "3-4 d-a 55 4f-399 66-6e 11-c3 a4c-60 f-42f 10-15 a-f9a 5-246 1ab9-39 6c6-238 7-1e 1-9 6-4e " ++
  "1-9 6-1d 2-4 b-36 9-3 c-9 9-14 5-12 1b0-2c 3-9 c6-3f 80-4a 4-38 7-10 40-1 1-1 b-1 e-17f7 " ++
  "8-4d5 29-9 22e7-3 1-6 1-1 1-122 f 1d-2 2 e-3 8-18b 904-6a 5-c 3-8 7-9 3-1 1051-9 206-2d 2-16 " ++
  "21e-4 3-5 8-7 2-6 1e-3 94-2 1bb-54 1-46 1-1 2 2-1 2-3 1-b 1 1-6 1-40 1-3 2-7 1-6 1-1b 1-3 " ++
  "1-4 1 3-6 1-153 2-18 1-18 1-1e 1-18 1-1e 1-18 1-1e 1-18 1-1e 1-18 1-7 2-31 200-36 4-31 8 e " ++
  "16-4 1-e 450-1e 6-5 d5-6 1-10 2-6 1-1 1-4 5-3d 21 70-2c 3-d 2-9 4 141-1e 11-39 1d6-29 d6-2a " ++
  "1e5-6 1-3 1-1 1-e 1-c4 b-6 29-4b 4-9 4a6-3 1-1a 1-1 1 2 1-9 1-3 1 1 6 4 1 1 1-2 1-1 1 2 1 1 " ++
  "1 1 1-1 1 2-3 1-6 1-3 1-3 1 1-9 1-10 5-2 1-4 1-10 274-19 6-19 6-19 a66-9 406-a6df 20-1039 " ++
  "6-dd 2-1681 e-1d30 f-26d 9a2-21d 5e2-134a 5-105f add50-ef"

end ConstantScan.Unicode
