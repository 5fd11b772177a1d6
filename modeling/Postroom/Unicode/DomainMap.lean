import Postroom.Unicode.Case

/-!
# Characters in domain names

What becomes of a character that someone writes in a domain name, by edition 13 of the standard: it
is admitted, left out, mapped to other characters, or refused.  Characters that canonical
composition maps are admitted here and left to it.

* `DomainMap.image?` — what a character is mapped to, unless it is refused;
* `DomainMap.admitted` — the characters that may stand in a name when it has been mapped.
-/

namespace Postroom.Unicode.DomainMap

/-- The characters that stand for themselves. -/
def admitted : CodeSet :=
  .ofLengths "0 65 26 37 33 7 1 1 1 2 1 1 1 2 4 2 3 1 3 1 23 1 7 33 1 1 1 1 1 1 1 1 1 1 1 1 1 1 1 1 1 1 1
   1 1 1 1 1 1 1 1 1 1 1 1 1 1 1 1 1 1 1 1 1 1 1 1 1 1 1 1 1 1 1 3 1 1 2 1 1 1 1 1 1 3 1 1 1 1
   1 1 1 2 1 1 1 1 1 1 1 1 1 1 1 1 1 1 1 1 1 1 1 1 1 1 1 1 1 1 1 1 1 1 1 1 1 1 1 1 1 1 1 1 1 1
   1 1 1 2 1 1 1 1 1 1 1 2 1 1 1 2 1 3 2 4 1 2 1 3 3 2 1 2 1 1 1 1 1 2 1 1 2 1 1 2 1 3 1 1 1 2
   3 1 7 10 1 1 1 1 1 1 1 1 1 1 1 1 1 1 2 1 1 1 1 1 1 1 1 1 1 1 1 1 1 1 1 1 2 4 1 3 1 1 1 1 1
   1 1 1 1 1 1 1 1 1 1 1 1 1 1 1 1 1 1 1 1 1 1 1 1 1 1 1 1 1 1 1 1 1 1 1 1 1 1 1 1 1 1 1 1 1 1
   1 1 1 1 1 1 1 7 2 1 2 2 1 1 4 1 1 1 1 1 1 1 1 97 9 31 6 2 5 96 1 9 1 32 1 1 1 3 1 1 3 4 8 1
   8 1 27 35 8 1 1 1 1 1 1 1 1 1 1 1 1 1 1 1 1 1 1 1 1 1 1 1 1 1 3 1 2 1 1 1 2 2 51 48 1 1 1 1
   1 1 1 1 1 1 1 1 1 1 1 1 1 1 1 1 1 1 1 1 1 1 1 1 1 1 1 1 1 9 1 1 1 1 1 1 1 1 1 1 1 1 1 1 1 1
   1 1 1 1 1 1 1 1 1 1 1 1 1 1 1 1 1 1 1 1 1 1 1 1 1 1 1 1 1 1 1 1 1 1 1 1 1 1 2 1 1 1 1 1 1 1
   1 1 1 1 1 2 1 1 1 1 1 1 1 1 1 1 1 1 1 1 1 1 1 1 1 1 1 1 1 1 1 1 1 1 1 1 1 1 1 1 1 1 1 1 1 1
   1 1 1 1 1 1 1 1 1 1 1 1 1 1 1 1 1 1 1 1 1 1 1 1 1 1 1 1 1 1 1 1 1 1 1 1 1 1 1 1 1 1 1 1 1 1
   1 1 1 1 1 1 1 1 1 1 41 46 1 3 2 3 1 55 8 27 4 6 17 22 2 87 4 100 1 48 2 59 2 101 14 59 2 49
   2 15 1 28 2 1 1 11 53 21 1 18 11 15 1 161 1 8 2 2 2 22 1 7 1 1 3 4 2 9 2 2 2 4 8 1 4 2 1 5
   2 25 2 3 1 6 4 2 2 22 1 7 1 2 1 2 1 2 2 1 1 5 4 2 2 3 3 1 7 4 1 1 7 17 10 3 1 9 1 3 1 22 1
   7 1 2 1 5 2 10 1 3 1 3 2 1 15 4 2 12 7 7 1 3 1 8 2 2 2 22 1 7 1 2 1 5 2 9 2 2 2 3 7 3 4 2 1
   5 2 18 10 2 1 6 3 3 1 4 3 2 1 1 1 2 3 2 3 3 3 12 4 5 3 3 1 4 2 1 6 1 14 21 5 13 1 3 1 23 1
   16 3 8 1 3 1 4 7 2 1 3 5 4 2 10 7 22 1 3 1 23 1 10 1 5 2 9 1 3 1 4 7 2 7 1 1 4 2 10 1 2 13
   13 1 3 1 51 1 3 1 6 4 16 2 26 1 3 1 18 3 24 1 9 1 1 2 7 3 1 4 6 1 1 1 8 6 10 2 3 12 50 1 7
   4 29 37 2 1 1 1 5 1 24 1 1 1 12 1 10 2 5 1 1 1 6 2 10 4 2 32 12 1 59 1 36 4 6 1 1 1 30 1 36
   1 15 1 13 37 160 48 44 1 98 2 232 1 4 2 7 1 1 1 4 2 41 1 4 2 33 1 4 2 7 1 1 1 4 2 15 1 57 1
   4 2 67 2 32 3 26 6 86 10 640 1 28 3 89 7 13 1 7 11 23 9 20 12 13 1 3 1 2 12 52 2 40 2 10 6
   10 6 6 1 4 5 10 6 89 7 43 5 70 10 31 1 12 4 12 4 1 3 42 2 5 11 44 4 26 6 11 3 62 2 65 1 29
   2 11 6 10 6 14 2 17 63 76 4 45 3 116 8 60 3 15 3 51 64 8 8 43 5 44 3 1 11 1 18 1 28 13 1 34
   37 58 1 5 1 1 1 1 1 1 1 1 1 1 1 1 1 1 1 1 1 1 1 1 1 1 1 1 1 1 1 1 1 1 1 1 1 1 1 1 1 1 1 1 1
   1 1 1 1 1 1 1 1 1 1 1 1 1 1 1 1 1 1 1 1 1 1 1 1 1 1 1 1 1 1 1 1 1 1 1 1 1 1 1 1 1 1 1 1 1 1
   1 1 1 1 1 1 1 1 1 1 1 1 1 1 1 1 1 1 1 1 1 1 1 1 1 1 1 1 1 1 1 1 1 1 1 1 1 1 1 1 1 1 1 1 1 1
   1 1 1 1 1 1 1 1 1 1 1 1 1 1 1 1 5 2 2 1 1 1 1 1 1 1 1 1 1 1 1 1 1 1 1 1 1 1 1 1 1 1 1 1 1 1
   1 1 1 1 1 1 1 1 1 1 1 1 1 1 1 1 1 1 1 1 1 1 1 1 1 1 1 1 1 1 1 1 1 1 1 1 1 1 1 1 1 1 1 1 1 1
   1 1 1 1 1 1 1 1 1 1 1 1 1 1 1 1 1 1 1 1 1 1 1 1 9 8 6 10 8 8 8 8 6 10 8 8 8 8 14 50 2 4 1 7
   1 7 1 9 4 2 2 8 8 7 1 6 1 21 2 2 1 1 5 1 12 3 1 8 3 2 1 2 4 1 1 1 8 3 13 1 7 65 8 1 23 16
   33 19 1 3 1 11 1 2 2 5 2 3 1 1 1 1 1 1 1 4 1 11 1 6 4 5 6 48 3 1 5 1 2 4 156 2 1 2 502 25
   11 160 1313 1 103 3 253 2 32 1 105 48 47 2 1 3 2 1 1 1 1 1 1 4 1 1 2 1 6 5 1 1 1 1 1 1 1 1
   1 1 1 1 1 1 1 1 1 1 1 1 1 1 1 1 1 1 1 1 1 1 1 1 1 1 1 1 1 1 1 1 1 1 1 1 1 1 1 1 1 1 1 1 1 1
   1 1 1 1 1 1 1 1 1 1 1 1 1 1 1 1 1 1 1 1 1 1 1 1 1 1 1 1 1 1 1 1 1 1 1 1 1 1 1 1 1 1 1 1 8 1
   1 1 4 1 1 5 45 1 1 5 1 2 56 8 1 14 24 9 7 1 7 1 7 1 7 1 7 1 7 1 7 1 7 1 115 45 26 1 4 1 83
   270 1 1 51 1 1 3 5 1 86 2 2 2 2 1 95 6 43 96 2 14 68 12 16 72 8 47 1 384 27645 3 1165 3 55
   9 348 21 1 1 1 1 1 1 1 1 1 1 1 1 1 1 1 1 1 1 1 1 1 1 1 1 1 1 1 1 1 1 1 1 1 1 1 1 1 1 1 1 1
   1 1 1 19 1 1 1 1 1 1 1 1 1 1 1 1 1 1 1 1 1 1 1 1 1 1 1 1 1 1 1 1 2 90 8 34 1 1 1 1 1 1 1 1
   1 1 1 1 1 3 1 1 1 1 1 1 1 1 1 1 1 1 1 1 1 1 1 1 1 1 1 1 1 1 1 1 1 1 1 1 1 1 1 1 1 1 1 1 1 1
   1 1 1 1 1 1 1 1 1 1 1 1 1 1 1 1 1 1 1 1 1 1 1 8 1 1 1 1 2 1 1 1 1 1 1 1 1 4 1 1 1 2 1 1 1 3
   1 1 1 1 1 1 1 1 1 1 1 1 1 1 1 1 1 1 1 1 5 1 5 1 1 1 1 1 1 1 1 1 1 1 3 1 4 1 1 1 43 2 2 51 3
   10 6 56 8 70 8 12 6 116 11 30 3 78 1 11 4 33 1 55 9 14 2 10 2 103 24 28 10 6 2 6 2 6 9 7 1
   7 1 44 4 9 1 2 84 46 2 10 6 11172 12 23 4 49 8452 366 2 106 67 3 10 13 1 5 1 1 1 2 1 2 1 9
   99 16 380 2 189 1 34 16 21 2 44 1 396 12 1 26 1 19 1 2 1 15 2 14 34 123 5 3 4 45 3 88 1 13
   3 1 47 46 130 29 3 49 15 28 4 36 9 30 5 43 5 30 1 37 4 14 82 118 2 10 46 36 4 40 8 52 11 1
   144 311 9 22 10 8 152 6 2 1 1 44 1 2 3 1 2 23 1 72 8 9 48 19 1 2 5 33 3 27 5 1 64 56 4 20 2
   50 1 2 5 8 1 3 1 29 2 3 4 10 7 9 7 64 32 39 4 12 9 54 3 29 2 27 5 26 7 4 12 7 80 73 119 51
   7 46 8 10 294 31 1 42 1 3 2 2 78 40 8 42 86 28 20 23 9 78 4 30 15 62 1 4 14 25 7 10 6 53 1
   18 8 39 9 96 1 20 11 18 1 44 65 7 1 1 1 4 1 15 1 11 6 59 5 10 6 4 1 8 2 2 2 22 1 7 1 2 1 5
   1 10 2 2 2 3 2 1 6 1 5 7 2 7 3 5 139 92 1 5 30 72 8 10 166 54 2 38 34 69 11 10 6 13 19 57 7
   10 54 27 2 15 4 16 192 60 132 51 12 8 2 1 2 8 1 2 1 30 1 2 2 12 9 10 70 8 2 46 2 11 27 72 8
   83 29 57 263 9 1 45 1 14 10 29 3 32 2 22 1 14 73 7 1 2 1 44 3 1 1 2 1 9 8 10 6 6 1 2 1 37 1
   2 1 6 7 10 310 25 183 1 15 50 13 923 102 111 1 5 11 196 2748 1071 4049 583 8633 569 7 31 1
   10 4 2 96 30 2 6 10 70 10 10 1 7 1 21 5 19 720 59 101 75 4 57 7 17 64 5 11 2 14 6136 8 1238
   42 9 8951 287 49 3 17 4 8 396 2308 107 5 13 3 9 7 10 2 4 4960 246 10 39 2 74 8 110 23 70
   154 20 12 87 9 25 1159 652 15 5 1 15 1360 7 1 17 2 7 1 2 1 5 213 45 3 14 2 10 4 2 368 58 5
   1 1280 197 2 16 75 42 4 10 4 2 785 68 76 61 434 2 270 44 4 100 12 15 2 15 1 15 1 37 21 5 31
   1 32 26 3 35 1 29 56 26 96 6 154 984 8 13 3 13 3 116 12 89 7 12 20 12 4 56 8 10 6 40 8 30 2
   2 78 121 1 82 1 135 12 14 2 5 3 3 5 7 9 25 7 7 9 3 13 7 41 147 1 55 1077 42718 34 4149 11
   222 2 5762 14 7473 3103 104 1 11 1 170 1 63 1 95 1 94 1506 4939"

/-- The characters that are left out. -/
def ignored : CodeSet :=
  .ofLengths "173 1 673 1 5307 3 1 1 2043 1 84 1 3 1 56731 16 239 1 48544 4 803932 240"

/-- The characters that are mapped to one other: the first of each row, how many there are, how far
they are apart, and how far they are moved. -/
def shiftText : String :=
  "65 26 1 32 160 1 1 -128 170 1 1 -73 178 2 1 -128 181 1 1 775 185 1 1 -136 186 1 1 -75 192
   23 1 32 216 7 1 32 256 24 2 1 308 2 2 1 313 3 2 1 321 4 2 1 330 23 2 1 376 1 1 -121 377 3 2
   1 383 1 1 -268 385 1 1 210 386 2 2 1 390 1 1 206 391 1 1 1 393 2 1 205 395 1 1 1 398 1 1 79
   399 1 1 202 400 1 1 203 401 1 1 1 403 1 1 205 404 1 1 207 406 1 1 211 407 1 1 209 408 1 1 1
   412 1 1 211 413 1 1 213 415 1 1 214 416 3 2 1 422 1 1 218 423 1 1 1 425 1 1 218 428 1 1 1
   430 1 1 218 431 1 1 1 433 2 1 217 435 2 2 1 439 1 1 219 440 1 1 1 444 1 1 1 461 8 2 1 478 9
   2 1 500 1 1 1 502 1 1 -97 503 1 1 -56 504 20 2 1 544 1 1 -130 546 9 2 1 570 1 1 10795 571 1
   1 1 573 1 1 -163 574 1 1 10792 577 1 1 1 579 1 1 -195 580 1 1 69 581 1 1 71 582 5 2 1 688 1
   1 -584 689 1 1 -75 690 1 1 -584 691 1 1 -577 692 1 1 -59 693 1 1 -58 694 1 1 -53 695 1 1
   -576 696 1 1 -575 736 1 1 -125 737 1 1 -629 738 1 1 -623 739 1 1 -619 740 1 1 -79 837 1 1
   116 880 2 2 1 886 1 1 1 895 1 1 116 902 1 1 38 904 3 1 37 908 1 1 64 910 2 1 63 913 17 1 32
   931 9 1 32 975 1 1 8 976 1 1 -30 977 1 1 -25 978 1 1 -13 979 1 1 -6 980 1 1 -9 981 1 1 -15
   982 1 1 -22 984 12 2 1 1008 1 1 -54 1009 1 1 -48 1010 1 1 -47 1012 1 1 -60 1013 1 1 -64
   1015 1 1 1 1017 1 1 -54 1018 1 1 1 1021 3 1 -130 1024 16 1 80 1040 32 1 32 1120 17 2 1 1162
   27 2 1 1217 7 2 1 1232 48 2 1 1329 38 1 48 3852 1 1 -1 4295 1 1 7264 4301 1 1 7264 4348 1 1
   -32 5112 6 1 -8 7296 1 1 -6222 7297 1 1 -6221 7298 1 1 -6212 7299 2 1 -6210 7301 1 1 -6211
   7302 1 1 -6204 7303 1 1 -6180 7304 1 1 35267 7312 43 1 -3008 7357 3 1 -3008 7468 1 1 -7371
   7469 1 1 -7239 7470 2 2 -7372 7473 1 1 -7372 7474 1 1 -6997 7475 8 1 -7372 7484 1 1 -7373
   7485 1 1 -6938 7486 1 1 -7374 7487 1 1 -7373 7488 2 1 -7372 7490 1 1 -7371 7491 1 1 -7394
   7492 2 1 -6900 7494 1 1 -68 7495 1 1 -7397 7496 2 1 -7396 7498 1 1 -6897 7499 2 1 -6896
   7501 1 1 -7398 7503 1 1 -7396 7504 1 1 -7395 7505 1 1 -7174 7506 1 1 -7395 7507 1 1 -6911
   7508 2 1 -62 7510 1 1 -7398 7511 2 1 -7395 7513 1 1 -60 7514 1 1 -6891 7515 1 1 -7397 7516
   1 1 -55 7517 3 1 -6571 7520 2 1 -6554 7522 1 1 -7417 7523 1 1 -7409 7524 2 1 -7407 7526 2 1
   -6580 7528 1 1 -6567 7529 2 1 -6563 7544 1 1 -6459 7579 1 1 -6985 7580 1 1 -7481 7581 1 1
   -6984 7582 1 1 -7342 7583 1 1 -6979 7584 1 1 -7482 7585 1 1 -6978 7586 1 1 -6977 7587 1 1
   -6974 7588 3 1 -6972 7591 1 1 -44 7592 1 1 -6923 7593 1 1 -6972 7594 1 1 -37 7595 1 1 -6924
   7596 1 1 -6971 7597 1 1 -6973 7598 4 1 -6972 7602 1 1 -6970 7603 2 1 -6961 7605 1 1 -7178
   7606 2 1 -6957 7608 1 1 -156 7609 2 1 -6958 7611 1 1 -7489 7612 3 1 -6956 7615 1 1 -6663
   7680 75 2 1 7835 1 1 -58 7840 48 2 1 7944 8 1 -8 7960 6 1 -8 7976 8 1 -8 7992 8 1 -8 8008 6
   1 -8 8025 4 2 -8 8040 8 1 -8 8120 2 1 -8 8122 1 1 -74 8123 1 1 -7183 8136 1 1 -86 8137 1 1
   -7196 8138 1 1 -86 8139 1 1 -7197 8152 2 1 -8 8154 1 1 -100 8155 1 1 -7212 8168 2 1 -8 8170
   1 1 -112 8171 1 1 -7198 8172 1 1 -7 8184 1 1 -128 8185 1 1 -7213 8186 1 1 -126 8187 1 1
   -7213 8192 1 1 -8160 8193 1 1 -8161 8194 1 1 -8162 8195 1 1 -8163 8196 1 1 -8164 8197 1 1
   -8165 8198 1 1 -8166 8199 1 1 -8167 8200 1 1 -8168 8201 1 1 -8169 8202 1 1 -8170 8209 1 1
   -1 8239 1 1 -8207 8287 1 1 -8255 8304 1 1 -8256 8305 1 1 -8200 8308 6 1 -8256 8314 1 1
   -8271 8315 1 1 407 8316 1 1 -8255 8317 2 1 -8277 8319 1 1 -8209 8320 10 1 -8272 8330 1 1
   -8287 8331 1 1 391 8332 1 1 -8271 8333 2 1 -8293 8336 1 1 -8239 8337 1 1 -8236 8338 1 1
   -8227 8339 1 1 -8219 8340 1 1 -7739 8341 1 1 -8237 8342 4 1 -8235 8346 1 1 -8234 8347 2 1
   -8232 8450 1 1 -8351 8455 1 1 -7852 8458 2 1 -8355 8460 1 1 -8356 8461 1 1 -8357 8462 1 1
   -8358 8463 1 1 -8168 8464 1 1 -8359 8465 1 1 -8360 8466 1 1 -8358 8467 2 2 -8359 8473 3 1
   -8361 8476 1 1 -8362 8477 1 1 -8363 8484 1 1 -8362 8486 1 1 -7517 8488 1 1 -8366 8490 1 1
   -8383 8491 1 1 -8262 8492 2 1 -8394 8495 1 1 -8394 8496 2 1 -8395 8499 1 1 -8390 8500 1 1
   -8389 8501 4 1 -7013 8505 1 1 -8400 8508 1 1 -7548 8509 1 1 -7562 8510 1 1 -7563 8511 1 1
   -7551 8512 1 1 209 8517 1 1 -8417 8518 2 1 -8418 8520 2 1 -8415 8544 1 1 -8439 8548 1 1
   -8430 8553 1 1 -8433 8556 1 1 -8448 8557 2 1 -8458 8559 1 1 -8450 8560 1 1 -8455 8564 1 1
   -8446 8569 1 1 -8449 8572 1 1 -8464 8573 2 1 -8474 8575 1 1 -8466 9312 9 1 -9263 9398 26 1
   -9301 9424 26 1 -9327 9450 1 1 -9402 11264 47 1 48 11360 1 1 1 11362 1 1 -10743 11363 1 1
   -3814 11364 1 1 -10727 11367 3 2 1 11373 1 1 -10780 11374 1 1 -10749 11375 1 1 -10783 11376
   1 1 -10782 11378 1 1 1 11381 1 1 1 11388 1 1 -11282 11389 1 1 -11271 11390 2 1 -10815 11392
   50 2 1 11499 2 2 1 11506 1 1 1 11631 1 1 -14 11935 1 1 15662 12019 1 1 28844 12032 1 1 7936
   12033 1 1 7975 12034 1 1 7988 12035 1 1 7996 12036 1 1 8021 12037 1 1 8064 12038 1 1 8070
   12039 1 1 8089 12040 1 1 8114 12041 1 1 8758 12042 1 1 8795 12043 1 1 8800 12044 1 1 8822
   12045 1 1 8841 12046 1 1 8861 12047 1 1 8913 12048 1 1 8933 12049 1 1 8943 12050 1 1 9097
   12051 1 1 9190 12052 1 1 9217 12053 1 1 9221 12054 1 1 9250 12055 1 1 9258 12056 1 1 9284
   12057 1 1 9296 12058 1 1 9320 12059 1 1 9371 12060 1 1 9388 12061 1 1 9414 12062 1 1 10169
   12063 1 1 10240 12064 1 1 10699 12065 1 1 10721 12066 1 1 10728 12067 1 1 10738 12068 1 1
   10755 12069 1 1 10830 12070 1 1 11306 12071 1 1 11353 12072 1 1 11472 12073 1 1 11494 12074
   1 1 11512 12075 1 1 11533 12076 1 1 11586 12077 1 1 11588 12078 1 1 11949 12079 1 1 11958
   12080 1 1 11969 12081 1 1 11981 12082 1 1 12096 12083 1 1 12103 12084 1 1 12107 12085 1 1
   12223 12086 1 1 12232 12087 1 1 12244 12088 1 1 12251 12089 1 1 12311 12090 1 1 12327 12091
   1 1 12344 12092 1 1 12423 12093 1 1 13003 12094 1 1 13048 12095 1 1 13068 12096 1 1 13807
   12097 1 1 13811 12098 1 1 13893 12099 1 1 13908 12100 1 1 13920 12101 1 1 13940 12102 1 1
   13978 12103 1 1 13982 12104 1 1 14248 12105 1 1 14271 12106 1 1 14302 12107 1 1 15317 12108
   1 1 15382 12109 1 1 15404 12110 1 1 15461 12111 1 1 15484 12112 1 1 15492 12113 1 1 15498
   12114 1 1 15549 12115 1 1 15553 12116 1 1 15584 12117 1 1 16662 12118 1 1 17108 12119 1 1
   17119 12120 1 1 17123 12121 1 1 17126 12122 1 1 17133 12123 1 1 17150 12124 1 1 17151 12125
   1 1 17231 12126 1 1 17446 12127 1 1 17450 12128 1 1 17788 12129 1 1 17797 12130 1 1 17846
   12131 1 1 17852 12132 1 1 17860 12133 1 1 17867 12134 1 1 17957 12135 1 1 17963 12136 1 1
   18190 12137 1 1 18196 12138 1 1 18244 12139 1 1 18260 12140 1 1 18306 12141 1 1 18542 12142
   1 1 18548 12143 1 1 18564 12144 1 1 18890 12145 1 1 19015 12146 1 1 19020 12147 1 1 19201
   12148 1 1 19287 12149 1 1 19332 12150 1 1 19709 12151 1 1 19841 12152 1 1 20414 12153 1 1
   20440 12154 1 1 20496 12155 1 1 20546 12156 1 1 20613 12157 1 1 20623 12158 1 1 20628 12159
   1 1 20660 12160 1 1 20735 12161 1 1 20744 12162 1 1 21089 12163 1 1 21095 12164 1 1 21103
   12165 1 1 21111 12166 1 1 21126 12167 1 1 21140 12168 1 1 21143 12169 1 1 21221 12170 1 1
   21224 12171 1 1 21229 12172 1 1 22209 12173 1 1 22238 12174 1 1 22706 12175 1 1 22717 12176
   1 1 22739 12177 1 1 23021 12178 1 1 23033 12179 1 1 23103 12180 1 1 23148 12181 1 1 23714
   12182 1 1 23728 12183 1 1 23742 12184 1 1 23776 12185 1 1 23812 12186 1 1 24010 12187 1 1
   24021 12188 1 1 24087 12189 1 1 24334 12190 1 1 24364 12191 1 1 24572 12192 1 1 24592 12193
   1 1 24596 12194 1 1 24815 12195 1 1 24998 12196 1 1 25122 12197 1 1 25127 12198 1 1 25131
   12199 1 1 26064 12200 1 1 26072 12201 1 1 26227 12202 1 1 26380 12203 1 1 26382 12204 1 1
   26428 12205 1 1 26532 12206 1 1 26544 12207 1 1 26547 12208 1 1 26553 12209 1 1 26650 12210
   1 1 26683 12211 1 1 26688 12212 1 1 26701 12213 1 1 26867 12214 1 1 26917 12215 1 1 26920
   12216 1 1 27102 12217 1 1 27104 12218 1 1 27122 12219 1 1 27373 12220 1 1 27420 12221 1 1
   27426 12222 1 1 27495 12223 1 1 27504 12224 1 1 27506 12225 1 1 27515 12226 1 1 27544 12227
   1 1 27938 12228 1 1 28337 12229 1 1 28346 12230 1 1 28383 12231 1 1 28404 12232 1 1 28411
   12233 1 1 28420 12234 1 1 28423 12235 1 1 28462 12236 1 1 28465 12237 1 1 28481 12238 1 1
   28485 12239 1 1 28497 12240 1 1 28523 12241 1 1 28537 12242 1 1 28544 12243 1 1 28602 12244
   1 1 28616 12245 1 1 28619 12288 1 1 -12256 12290 1 1 -12244 12342 1 1 -36 12344 1 1 8969
   12345 2 1 8971 12593 2 1 -8241 12595 1 1 -8073 12596 1 1 -8242 12597 2 1 -8073 12599 3 1
   -8244 12602 6 1 -8074 12608 1 1 -8230 12609 3 1 -8251 12612 1 1 -8227 12613 10 1 -8252
   12623 21 1 -8174 12645 2 1 -8273 12647 2 1 -8096 12649 1 1 -8093 12650 1 1 -8092 12651 1 1
   -8088 12652 1 1 -8085 12653 1 1 -8084 12654 1 1 -8274 12655 1 1 -8082 12656 1 1 -8081 12657
   2 1 -8276 12659 1 1 -8275 12660 2 1 -8274 12662 1 1 -8271 12663 1 1 -8270 12664 5 1 -8269
   12669 1 1 -8267 12670 1 1 -8264 12671 1 1 -8255 12672 1 1 -8249 12673 1 1 -8245 12674 2 1
   -8081 12676 3 1 -8237 12679 2 1 -8195 12681 1 1 -8193 12682 2 1 -8185 12684 1 1 -8184 12685
   1 1 -8175 12686 1 1 -8173 12690 1 1 7278 12691 1 1 7417 12692 1 1 7285 12693 1 1 9542 12694
   1 1 7284 12695 1 1 7318 12696 1 1 7283 12697 1 1 17305 12698 1 1 7359 12699 1 1 7294 12700
   1 1 7269 12701 1 1 10124 12702 1 1 9618 12703 1 1 7451 12868 1 1 8971 12869 1 1 11319 12870
   1 1 13121 12871 1 1 18760 12896 1 1 -8544 12897 2 1 -8543 12899 3 1 -8542 12902 1 1 -8541
   12903 2 1 -8540 12905 5 1 -8539 12910 1 1 31122 12911 1 1 32297 12912 1 1 32884 12913 1 1
   34059 12914 1 1 34646 12915 1 1 35233 12916 1 1 36408 12917 1 1 37583 12918 1 1 38170 12919
   1 1 39345 12920 1 1 39932 12921 1 1 40519 12922 1 1 41106 12923 1 1 41693 12926 1 1 37938
   12928 1 1 7040 12929 1 1 7179 12930 1 1 7047 12931 1 1 9304 12932 1 1 7184 12933 1 1 7912
   12934 1 1 7037 12935 1 1 7908 12936 1 1 7125 12937 1 1 8376 12938 1 1 13438 12939 1 1 15840
   12940 1 1 14760 12941 1 1 13467 12942 1 1 24387 12943 1 1 9360 12944 1 1 13141 12945 1 1
   13721 12946 1 1 13431 12947 1 1 18091 12948 1 1 8569 12949 1 1 16356 12950 1 1 23051 12951
   1 1 18118 12952 1 1 8220 12953 1 1 18239 12954 1 1 17053 12955 1 1 9944 12956 1 1 24013
   12957 1 1 7821 12958 1 1 8402 12959 1 1 14921 12960 1 1 25957 12961 1 1 7280 12962 1 1 7927
   12963 1 1 14528 12964 1 1 7014 12965 1 1 7048 12966 1 1 7013 12967 1 1 11071 12968 1 1 8523
   12969 1 1 8338 12970 1 1 10477 12971 1 1 10427 12972 1 1 17463 12973 1 1 7252 12974 1 1
   23065 12975 1 1 8357 12976 1 1 9836 13008 1 1 -558 13009 1 1 -557 13010 1 1 -556 13011 1 1
   -555 13012 2 1 -554 13014 1 1 -553 13015 1 1 -552 13016 1 1 -551 13017 1 1 -550 13018 1 1
   -549 13019 1 1 -548 13020 1 1 -547 13021 1 1 -546 13022 1 1 -545 13023 1 1 -544 13024 1 1
   -543 13025 1 1 -541 13026 1 1 -540 13027 1 1 -539 13028 6 1 -538 13034 1 1 -536 13035 1 1
   -534 13036 1 1 -532 13037 1 1 -530 13038 5 1 -528 13043 1 1 -527 13044 1 1 -526 13045 6 1
   -525 13051 4 1 -524 42560 23 2 1 42624 14 2 1 42652 1 1 -41554 42653 1 1 -41553 42786 7 2 1
   42802 31 2 1 42864 1 1 -1 42873 2 2 1 42877 1 1 -35332 42878 5 2 1 42891 1 1 1 42893 1 1
   -42280 42896 2 2 1 42902 10 2 1 42922 1 1 -42308 42923 1 1 -42319 42924 1 1 -42315 42925 1
   1 -42305 42926 1 1 -42308 42928 1 1 -42258 42929 1 1 -42282 42930 1 1 -42261 42931 1 1 928
   42932 6 2 1 42946 1 1 1 42948 1 1 -48 42949 1 1 -42307 42950 1 1 -35384 42951 2 2 1 42997 1
   1 1 43000 1 1 -42705 43001 1 1 -42662 43868 1 1 -1077 43869 1 1 -38 43870 1 1 -43251 43871
   1 1 -13 43881 1 1 -43228 43888 80 1 -38864 64288 1 1 -62782 64289 1 1 -62801 64290 2 1
   -62799 64292 3 1 -62793 64295 1 1 -62783 64296 1 1 -62782 64297 1 1 -64254 64336 1 1 -62687
   64337 1 1 -62688 64338 1 1 -62679 64339 1 1 -62680 64340 1 1 -62681 64341 1 1 -62682 64342
   1 1 -62680 64343 1 1 -62681 64344 1 1 -62682 64345 1 1 -62683 64346 1 1 -62682 64347 1 1
   -62683 64348 1 1 -62684 64349 1 1 -62685 64350 1 1 -62692 64351 1 1 -62693 64352 1 1 -62694
   64353 1 1 -62695 64354 1 1 -62691 64355 1 1 -62692 64356 1 1 -62693 64357 1 1 -62694 64358
   1 1 -62701 64359 1 1 -62702 64360 1 1 -62703 64361 1 1 -62704 64362 1 1 -62662 64363 1 1
   -62663 64364 1 1 -62664 64365 1 1 -62665 64366 1 1 -62664 64367 1 1 -62665 64368 1 1 -62666
   64369 1 1 -62667 64370 1 1 -62702 64371 1 1 -62703 64372 1 1 -62704 64373 1 1 -62705 64374
   1 1 -62707 64375 1 1 -62708 64376 1 1 -62709 64377 1 1 -62710 64378 1 1 -62708 64379 1 1
   -62709 64380 1 1 -62710 64381 2 1 -62711 64383 1 1 -62712 64384 1 1 -62713 64385 1 1 -62714
   64386 1 1 -62709 64387 1 1 -62710 64388 1 1 -62712 64389 1 1 -62713 64390 1 1 -62712 64391
   1 1 -62713 64392 1 1 -62720 64393 1 1 -62721 64394 1 1 -62706 64395 1 1 -62707 64396 1 1
   -62715 64397 1 1 -62716 64398 1 1 -62693 64399 1 1 -62694 64400 1 1 -62695 64401 1 1 -62696
   64402 1 1 -62691 64403 1 1 -62692 64404 1 1 -62693 64405 1 1 -62694 64406 1 1 -62691 64407
   1 1 -62692 64408 1 1 -62693 64409 1 1 -62694 64410 1 1 -62697 64411 1 1 -62698 64412 1 1
   -62699 64413 1 1 -62700 64414 1 1 -62692 64415 2 1 -62693 64417 1 1 -62694 64418 1 1 -62695
   64419 1 1 -62696 64420 1 1 -62692 64421 2 1 -62693 64423 1 1 -62694 64424 1 1 -62695 64425
   1 1 -62696 64426 1 1 -62700 64427 1 1 -62701 64428 1 1 -62702 64429 1 1 -62703 64430 1 1
   -62684 64431 2 1 -62685 64433 1 1 -62686 64467 1 1 -62758 64468 1 1 -62759 64469 1 1 -62760
   64470 1 1 -62761 64471 1 1 -62736 64472 1 1 -62737 64473 1 1 -62739 64474 1 1 -62740 64475
   1 1 -62739 64476 1 1 -62740 64478 1 1 -62739 64479 1 1 -62740 64480 1 1 -62747 64481 1 1
   -62748 64482 1 1 -62745 64483 1 1 -62746 64484 1 1 -62740 64485 1 1 -62741 64486 1 1 -62742
   64487 1 1 -62743 64488 1 1 -62879 64489 1 1 -62880 64508 1 1 -62768 64509 1 1 -62769 64510
   1 1 -62770 64511 1 1 -62771 65040 1 1 -64996 65041 1 1 -52752 65043 2 1 -64985 65045 1 1
   -65012 65046 1 1 -64983 65047 2 1 -52737 65073 1 1 -56861 65074 1 1 -56863 65075 1 1 -64980
   65076 1 1 -64981 65077 2 1 -65037 65079 1 1 -64956 65080 1 1 -64955 65081 2 1 -52773 65083
   2 1 -52779 65085 2 1 -52787 65087 2 1 -52791 65089 4 1 -52789 65095 1 1 -65004 65096 1 1
   -65003 65101 1 1 -65006 65102 1 1 -65007 65103 1 1 -65008 65104 1 1 -65060 65105 1 1 -52816
   65108 1 1 -65049 65109 1 1 -65051 65110 1 1 -65047 65111 1 1 -65078 65112 1 1 -56900 65113
   2 1 -65073 65115 1 1 -64992 65116 1 1 -64991 65117 2 1 -52809 65119 1 1 -65084 65120 1 1
   -65082 65121 2 1 -65079 65123 1 1 -65078 65124 1 1 -65064 65125 1 1 -65063 65126 1 1 -65065
   65128 1 1 -65036 65129 2 1 -65093 65131 1 1 -65067 65152 2 1 -63583 65154 2 1 -63584 65156
   2 1 -63585 65158 2 1 -63586 65160 2 1 -63587 65162 1 1 -63588 65163 1 1 -63589 65164 2 1
   -63590 65166 2 1 -63591 65168 1 1 -63592 65169 1 1 -63593 65170 2 1 -63594 65172 2 1 -63595
   65174 1 1 -63596 65175 1 1 -63597 65176 2 1 -63598 65178 1 1 -63599 65179 1 1 -63600 65180
   2 1 -63601 65182 1 1 -63602 65183 1 1 -63603 65184 2 1 -63604 65186 1 1 -63605 65187 1 1
   -63606 65188 2 1 -63607 65190 1 1 -63608 65191 1 1 -63609 65192 2 1 -63610 65194 2 1 -63611
   65196 2 1 -63612 65198 2 1 -63613 65200 2 1 -63614 65202 1 1 -63615 65203 1 1 -63616 65204
   2 1 -63617 65206 1 1 -63618 65207 1 1 -63619 65208 2 1 -63620 65210 1 1 -63621 65211 1 1
   -63622 65212 2 1 -63623 65214 1 1 -63624 65215 1 1 -63625 65216 2 1 -63626 65218 1 1 -63627
   65219 1 1 -63628 65220 2 1 -63629 65222 1 1 -63630 65223 1 1 -63631 65224 2 1 -63632 65226
   1 1 -63633 65227 1 1 -63634 65228 2 1 -63635 65230 1 1 -63636 65231 1 1 -63637 65232 1 1
   -63638 65233 1 1 -63632 65234 1 1 -63633 65235 1 1 -63634 65236 2 1 -63635 65238 1 1 -63636
   65239 1 1 -63637 65240 2 1 -63638 65242 1 1 -63639 65243 1 1 -63640 65244 2 1 -63641 65246
   1 1 -63642 65247 1 1 -63643 65248 2 1 -63644 65250 1 1 -63645 65251 1 1 -63646 65252 2 1
   -63647 65254 1 1 -63648 65255 1 1 -63649 65256 2 1 -63650 65258 1 1 -63651 65259 1 1 -63652
   65260 2 1 -63653 65262 2 1 -63654 65264 2 1 -63655 65266 1 1 -63656 65267 1 1 -63657 65268
   1 1 -63658 65281 32 1 -65248 65313 26 1 -65216 65339 36 1 -65248 65375 2 1 -54746 65377 1 1
   -65331 65378 2 1 -53078 65380 1 1 -53091 65381 1 1 -52842 65382 1 1 -52852 65383 1 1 -52934
   65384 1 1 -52933 65385 1 1 -52932 65386 1 1 -52931 65387 1 1 -52930 65388 1 1 -52873 65389
   1 1 -52872 65390 1 1 -52871 65391 1 1 -52908 65392 1 1 -52852 65393 1 1 -52943 65394 1 1
   -52942 65395 1 1 -52941 65396 1 1 -52940 65397 2 1 -52939 65399 1 1 -52938 65400 1 1 -52937
   65401 1 1 -52936 65402 1 1 -52935 65403 1 1 -52934 65404 1 1 -52933 65405 1 1 -52932 65406
   1 1 -52931 65407 1 1 -52930 65408 1 1 -52929 65409 1 1 -52928 65410 1 1 -52926 65411 1 1
   -52925 65412 1 1 -52924 65413 6 1 -52923 65419 1 1 -52921 65420 1 1 -52919 65421 1 1 -52917
   65422 1 1 -52915 65423 5 1 -52913 65428 1 1 -52912 65429 1 1 -52911 65430 6 1 -52910 65436
   1 1 -52909 65437 1 1 -52906 65438 2 1 -52997 65441 2 1 -61089 65443 1 1 -60921 65444 1 1
   -61090 65445 2 1 -60921 65447 3 1 -61092 65450 6 1 -60922 65456 1 1 -61078 65457 3 1 -61099
   65460 1 1 -61075 65461 10 1 -61100 65474 6 1 -61025 65482 6 1 -61027 65490 6 1 -61029 65498
   3 1 -61031 65504 2 1 -65342 65506 1 1 -65334 65508 1 1 -65342 65509 1 1 -65344 65510 1 1
   -57149 65512 1 1 -56038 65513 4 1 -56921 65517 1 1 -55885 65518 1 1 -55843 66560 40 1 40
   66736 36 1 40 68736 51 1 64 71840 32 1 32 93760 32 1 32 119808 26 1 -119711 119834 26 1
   -119737 119860 26 1 -119763 119886 7 1 -119789 119894 18 1 -119789 119912 26 1 -119815
   119938 26 1 -119841 119964 2 2 -119867 119967 1 1 -119867 119970 1 1 -119867 119973 2 1
   -119867 119977 4 1 -119867 119982 8 1 -119867 119990 4 1 -119893 119995 2 2 -119893 119998
   6 1 -119893 120005 11 1 -119893 120016 26 1 -119919 120042 26 1 -119945 120068 2 1 -119971
   120071 4 1 -119971 120077 8 1 -119971 120086 7 1 -119971 120094 26 1 -119997 120120 2 1
   -120023 120123 4 1 -120023 120128 5 1 -120023 120134 1 1 -120023 120138 7 1 -120023 120146
   26 1 -120049 120172 26 1 -120075 120198 26 1 -120101 120224 26 1 -120127 120250 26 1
   -120153 120276 26 1 -120179 120302 26 1 -120205 120328 26 1 -120231 120354 26 1 -120257
   120380 26 1 -120283 120406 26 1 -120309 120432 26 1 -120335 120458 26 1 -120361 120484 1 1
   -120179 120485 1 1 -119918 120488 17 1 -119543 120505 1 1 -119553 120506 7 1 -119543 120513
   1 1 -111802 120514 17 1 -119569 120531 1 1 -119568 120532 7 1 -119569 120539 1 1 -111833
   120540 1 1 -119591 120541 1 1 -119589 120542 1 1 -119588 120543 1 1 -119577 120544 1 1
   -119583 120545 1 1 -119585 120546 17 1 -119601 120563 1 1 -119611 120564 7 1 -119601 120571
   1 1 -111860 120572 17 1 -119627 120589 1 1 -119626 120590 7 1 -119627 120597 1 1 -111891
   120598 1 1 -119649 120599 1 1 -119647 120600 1 1 -119646 120601 1 1 -119635 120602 1 1
   -119641 120603 1 1 -119643 120604 17 1 -119659 120621 1 1 -119669 120622 7 1 -119659 120629
   1 1 -111918 120630 17 1 -119685 120647 1 1 -119684 120648 7 1 -119685 120655 1 1 -111949
   120656 1 1 -119707 120657 1 1 -119705 120658 1 1 -119704 120659 1 1 -119693 120660 1 1
   -119699 120661 1 1 -119701 120662 17 1 -119717 120679 1 1 -119727 120680 7 1 -119717 120687
   1 1 -111976 120688 17 1 -119743 120705 1 1 -119742 120706 7 1 -119743 120713 1 1 -112007
   120714 1 1 -119765 120715 1 1 -119763 120716 1 1 -119762 120717 1 1 -119751 120718 1 1
   -119757 120719 1 1 -119759 120720 17 1 -119775 120737 1 1 -119785 120738 7 1 -119775 120745
   1 1 -112034 120746 17 1 -119801 120763 1 1 -119800 120764 7 1 -119801 120771 1 1 -112065
   120772 1 1 -119823 120773 1 1 -119821 120774 1 1 -119820 120775 1 1 -119809 120776 1 1
   -119815 120777 1 1 -119817 120778 1 1 -119789 120779 1 1 -119790 120782 10 1 -120734 120792
   10 1 -120744 120802 10 1 -120754 120812 10 1 -120764 120822 10 1 -120774 125184 34 1 34
   126464 2 1 -124889 126466 1 1 -124886 126467 1 1 -124884 126469 1 1 -124861 126470 1 1
   -124884 126471 1 1 -124890 126472 1 1 -124881 126473 1 1 -124863 126474 4 1 -124871 126478
   1 1 -124891 126479 1 1 -124886 126480 1 1 -124879 126481 1 1 -124892 126482 1 1 -124880
   126483 1 1 -124898 126484 1 1 -124896 126485 2 1 -124907 126487 1 1 -124905 126488 1 1
   -124904 126489 1 1 -124899 126490 1 1 -124898 126491 1 1 -124897 126492 1 1 -124846 126493
   1 1 -124771 126494 1 1 -124797 126495 1 1 -124848 126497 1 1 -124921 126498 1 1 -124918
   126500 1 1 -124893 126503 1 1 -124922 126505 1 1 -124895 126506 4 1 -124903 126510 1 1
   -124923 126511 1 1 -124918 126512 1 1 -124911 126513 1 1 -124924 126514 1 1 -124912 126516
   1 1 -124928 126517 2 1 -124939 126519 1 1 -124937 126521 1 1 -124931 126523 1 1 -124929
   126530 1 1 -124950 126535 1 1 -124954 126537 1 1 -124927 126539 2 2 -124935 126542 1 1
   -124955 126543 1 1 -124950 126545 1 1 -124956 126546 1 1 -124944 126548 1 1 -124960 126551
   1 1 -124969 126553 1 1 -124963 126555 1 1 -124961 126557 1 1 -124835 126559 1 1 -124912
   126561 1 1 -124985 126562 1 1 -124982 126564 1 1 -124957 126567 1 1 -124986 126568 1 1
   -124977 126569 1 1 -124959 126570 2 2 -124967 126573 1 1 -124967 126574 1 1 -124987 126575
   1 1 -124982 126576 1 1 -124975 126577 1 1 -124988 126578 1 1 -124976 126580 1 1 -124992
   126581 2 1 -125003 126583 1 1 -125001 126585 1 1 -124995 126586 1 1 -124994 126587 1 1
   -124993 126588 1 1 -124942 126590 1 1 -124893 126592 2 1 -125017 126594 1 1 -125014 126595
   1 1 -125012 126596 2 1 -124989 126598 1 1 -125012 126599 1 1 -125018 126600 1 1 -125009
   126601 1 1 -124991 126603 3 1 -124999 126606 1 1 -125019 126607 1 1 -125014 126608 1 1
   -125007 126609 1 1 -125020 126610 1 1 -125008 126611 1 1 -125026 126612 1 1 -125024 126613
   2 1 -125035 126615 1 1 -125033 126616 1 1 -125032 126617 1 1 -125027 126618 1 1 -125026
   126619 1 1 -125025 126625 1 1 -125049 126626 1 1 -125046 126627 1 1 -125044 126629 1 1
   -125021 126630 1 1 -125044 126631 1 1 -125050 126632 1 1 -125041 126633 1 1 -125023 126635
   3 1 -125031 126638 1 1 -125051 126639 1 1 -125046 126640 1 1 -125039 126641 1 1 -125052
   126642 1 1 -125040 126643 1 1 -125058 126644 1 1 -125056 126645 2 1 -125067 126647 1 1
   -125065 126648 1 1 -125064 126649 1 1 -125059 126650 1 1 -125058 126651 1 1 -125057 127275
   1 1 -127176 127276 1 1 -127162 127280 26 1 -127183 127490 1 1 -115021 127504 1 1 -102341
   127505 1 1 -104122 127506 1 1 -106054 127507 1 1 -115020 127508 1 1 -107400 127509 1 1
   -104699 127510 1 1 -92211 127511 1 1 -104686 127512 1 1 -107380 127513 1 1 -101369 127514 1
   1 -98553 127515 1 1 -101506 127516 1 1 -106447 127517 1 1 -103057 127518 1 1 -106641 127519
   1 1 -101487 127520 1 1 -106499 127521 1 1 -95455 127522 1 1 -97539 127523 1 1 -91514 127524
   1 1 -104756 127525 1 1 -105964 127526 1 1 -99090 127527 1 1 -102290 127528 1 1 -102099
   127529 1 1 -107561 127530 1 1 -107553 127531 1 1 -90593 127532 1 1 -103494 127533 1 1
   -107520 127534 1 1 -106043 127535 1 1 -102184 127536 1 1 -91328 127537 1 1 -102366 127538 1
   1 -96433 127539 1 1 -96185 127540 1 1 -106028 127541 1 1 -99253 127542 1 1 -101165 127543 1
   1 -101167 127544 1 1 -97541 127545 1 1 -106439 127546 1 1 -105604 127547 1 1 -90350 127568
   1 1 -103097 127569 1 1 -106082 130032 10 1 -129984"

/-- The characters that are mapped to several others: each one followed by those. -/
def expansionText : String :=
  "168 32 776; 175 32 772; 180 32 769; 184 32 807; 188 49 8260 52; 189 49 8260 50; 190 51 8260
   52; 304 105 775; 306 105 106; 307 105 106; 319 108 183; 320 108 183; 329 700 110; 452 100
   382; 453 100 382; 454 100 382; 455 108 106; 456 108 106; 457 108 106; 458 110 106; 459 110
   106; 460 110 106; 497 100 122; 498 100 122; 499 100 122; 728 32 774; 729 32 775; 730 32
   778; 731 32 808; 732 32 771; 733 32 779; 890 32 953; 900 32 769; 901 32 776 769; 1415 1381
   1410; 1653 1575 1652; 1654 1608 1652; 1655 1735 1652; 1656 1610 1652; 3635 3661 3634; 3763
   3789 3762; 3804 3755 3737; 3805 3755 3745; 3959 4018 3953 3968; 3961 4019 3953 3968; 7834
   97 702; 7838 115 115; 8064 7936 953; 8065 7937 953; 8066 7938 953; 8067 7939 953; 8068 7940
   953; 8069 7941 953; 8070 7942 953; 8071 7943 953; 8072 7936 953; 8073 7937 953; 8074 7938
   953; 8075 7939 953; 8076 7940 953; 8077 7941 953; 8078 7942 953; 8079 7943 953; 8080 7968
   953; 8081 7969 953; 8082 7970 953; 8083 7971 953; 8084 7972 953; 8085 7973 953; 8086 7974
   953; 8087 7975 953; 8088 7968 953; 8089 7969 953; 8090 7970 953; 8091 7971 953; 8092 7972
   953; 8093 7973 953; 8094 7974 953; 8095 7975 953; 8096 8032 953; 8097 8033 953; 8098 8034
   953; 8099 8035 953; 8100 8036 953; 8101 8037 953; 8102 8038 953; 8103 8039 953; 8104 8032
   953; 8105 8033 953; 8106 8034 953; 8107 8035 953; 8108 8036 953; 8109 8037 953; 8110 8038
   953; 8111 8039 953; 8114 8048 953; 8115 945 953; 8116 940 953; 8119 8118 953; 8124 945 953;
   8125 32 787; 8127 32 787; 8128 32 834; 8129 32 776 834; 8130 8052 953; 8131 951 953; 8132
   942 953; 8135 8134 953; 8140 951 953; 8141 32 787 768; 8142 32 787 769; 8143 32 787 834;
   8157 32 788 768; 8158 32 788 769; 8159 32 788 834; 8173 32 776 768; 8174 32 776 769; 8178
   8060 953; 8179 969 953; 8180 974 953; 8183 8182 953; 8188 969 953; 8189 32 769; 8190 32
   788; 8215 32 819; 8243 8242 8242; 8244 8242 8242 8242; 8246 8245 8245; 8247 8245 8245 8245;
   8252 33 33; 8254 32 773; 8263 63 63; 8264 63 33; 8265 33 63; 8279 8242 8242 8242 8242; 8360
   114 115; 8448 97 47 99; 8449 97 47 115; 8451 176 99; 8453 99 47 111; 8454 99 47 117; 8457
   176 102; 8470 110 111; 8480 115 109; 8481 116 101 108; 8482 116 109; 8507 102 97 120; 8528
   49 8260 55; 8529 49 8260 57; 8530 49 8260 49 48; 8531 49 8260 51; 8532 50 8260 51; 8533 49
   8260 53; 8534 50 8260 53; 8535 51 8260 53; 8536 52 8260 53; 8537 49 8260 54; 8538 53 8260
   54; 8539 49 8260 56; 8540 51 8260 56; 8541 53 8260 56; 8542 55 8260 56; 8543 49 8260; 8545
   105 105; 8546 105 105 105; 8547 105 118; 8549 118 105; 8550 118 105 105; 8551 118 105 105
   105; 8552 105 120; 8554 120 105; 8555 120 105 105; 8561 105 105; 8562 105 105 105; 8563 105
   118; 8565 118 105; 8566 118 105 105; 8567 118 105 105 105; 8568 105 120; 8570 120 105; 8571
   120 105 105; 8585 48 8260 51; 8748 8747 8747; 8749 8747 8747 8747; 8751 8750 8750; 8752
   8750 8750 8750; 9321 49 48; 9322 49 49; 9323 49 50; 9324 49 51; 9325 49 52; 9326 49 53;
   9327 49 54; 9328 49 55; 9329 49 56; 9330 49 57; 9331 50 48; 9332 40 49 41; 9333 40 50 41;
   9334 40 51 41; 9335 40 52 41; 9336 40 53 41; 9337 40 54 41; 9338 40 55 41; 9339 40 56 41;
   9340 40 57 41; 9341 40 49 48 41; 9342 40 49 49 41; 9343 40 49 50 41; 9344 40 49 51 41; 9345
   40 49 52 41; 9346 40 49 53 41; 9347 40 49 54 41; 9348 40 49 55 41; 9349 40 49 56 41; 9350
   40 49 57 41; 9351 40 50 48 41; 9372 40 97 41; 9373 40 98 41; 9374 40 99 41; 9375 40 100 41;
   9376 40 101 41; 9377 40 102 41; 9378 40 103 41; 9379 40 104 41; 9380 40 105 41; 9381 40 106
   41; 9382 40 107 41; 9383 40 108 41; 9384 40 109 41; 9385 40 110 41; 9386 40 111 41; 9387 40
   112 41; 9388 40 113 41; 9389 40 114 41; 9390 40 115 41; 9391 40 116 41; 9392 40 117 41;
   9393 40 118 41; 9394 40 119 41; 9395 40 120 41; 9396 40 121 41; 9397 40 122 41; 10764 8747
   8747 8747 8747; 10868 58 58 61; 10869 61 61; 10870 61 61 61; 12443 32 12441; 12444 32
   12442; 12447 12424 12426; 12543 12467 12488; 12800 40 4352 41; 12801 40 4354 41; 12802 40
   4355 41; 12803 40 4357 41; 12804 40 4358 41; 12805 40 4359 41; 12806 40 4361 41; 12807 40
   4363 41; 12808 40 4364 41; 12809 40 4366 41; 12810 40 4367 41; 12811 40 4368 41; 12812 40
   4369 41; 12813 40 4370 41; 12814 40 44032 41; 12815 40 45208 41; 12816 40 45796 41; 12817
   40 46972 41; 12818 40 47560 41; 12819 40 48148 41; 12820 40 49324 41; 12821 40 50500 41;
   12822 40 51088 41; 12823 40 52264 41; 12824 40 52852 41; 12825 40 53440 41; 12826 40 54028
   41; 12827 40 54616 41; 12828 40 51452 41; 12829 40 50724 51204 41; 12830 40 50724 54980 41;
   12832 40 19968 41; 12833 40 20108 41; 12834 40 19977 41; 12835 40 22235 41; 12836 40 20116
   41; 12837 40 20845 41; 12838 40 19971 41; 12839 40 20843 41; 12840 40 20061 41; 12841 40
   21313 41; 12842 40 26376 41; 12843 40 28779 41; 12844 40 27700 41; 12845 40 26408 41; 12846
   40 37329 41; 12847 40 22303 41; 12848 40 26085 41; 12849 40 26666 41; 12850 40 26377 41;
   12851 40 31038 41; 12852 40 21517 41; 12853 40 29305 41; 12854 40 36001 41; 12855 40 31069
   41; 12856 40 21172 41; 12857 40 20195 41; 12858 40 21628 41; 12859 40 23398 41; 12860 40
   30435 41; 12861 40 20225 41; 12862 40 36039 41; 12863 40 21332 41; 12864 40 31085 41; 12865
   40 20241 41; 12866 40 33258 41; 12867 40 33267 41; 12880 112 116 101; 12881 50 49; 12882 50
   50; 12883 50 51; 12884 50 52; 12885 50 53; 12886 50 54; 12887 50 55; 12888 50 56; 12889 50
   57; 12890 51 48; 12891 51 49; 12892 51 50; 12893 51 51; 12894 51 52; 12895 51 53; 12924
   52280 44256; 12925 51452 51032; 12977 51 54; 12978 51 55; 12979 51 56; 12980 51 57; 12981
   52 48; 12982 52 49; 12983 52 50; 12984 52 51; 12985 52 52; 12986 52 53; 12987 52 54; 12988
   52 55; 12989 52 56; 12990 52 57; 12991 53 48; 12992 49 26376; 12993 50 26376; 12994 51
   26376; 12995 52 26376; 12996 53 26376; 12997 54 26376; 12998 55 26376; 12999 56 26376;
   13000 57 26376; 13001 49 48 26376; 13002 49 49 26376; 13003 49 50 26376; 13004 104 103;
   13005 101 114 103; 13006 101 118; 13007 108 116 100; 13055 20196 21644; 13056 12450 12497
   12540 12488; 13057 12450 12523 12501 12449; 13058 12450 12531 12506 12450; 13059 12450
   12540 12523; 13060 12452 12491 12531 12464; 13061 12452 12531 12481; 13062 12454 12457
   12531; 13063 12456 12473 12463 12540 12489; 13064 12456 12540 12459 12540; 13065 12458
   12531 12473; 13066 12458 12540 12512; 13067 12459 12452 12522; 13068 12459 12521 12483
   12488; 13069 12459 12525 12522 12540; 13070 12460 12525 12531; 13071 12460 12531 12510;
   13072 12462 12460; 13073 12462 12491 12540; 13074 12461 12517 12522 12540; 13075 12462
   12523 12480 12540; 13076 12461 12525; 13077 12461 12525 12464 12521 12512; 13078 12461
   12525 12513 12540 12488 12523; 13079 12461 12525 12527 12483 12488; 13080 12464 12521
   12512; 13081 12464 12521 12512 12488 12531; 13082 12463 12523 12476 12452 12525; 13083
   12463 12525 12540 12493; 13084 12465 12540 12473; 13085 12467 12523 12490; 13086 12467
   12540 12509; 13087 12469 12452 12463 12523; 13088 12469 12531 12481 12540 12512; 13089
   12471 12522 12531 12464; 13090 12475 12531 12481; 13091 12475 12531 12488; 13092 12480
   12540 12473; 13093 12487 12471; 13094 12489 12523; 13095 12488 12531; 13096 12490 12494;
   13097 12494 12483 12488; 13098 12495 12452 12484; 13099 12497 12540 12475 12531 12488;
   13100 12497 12540 12484; 13101 12496 12540 12524 12523; 13102 12500 12450 12473 12488
   12523; 13103 12500 12463 12523; 13104 12500 12467; 13105 12499 12523; 13106 12501 12449
   12521 12483 12489; 13107 12501 12451 12540 12488; 13108 12502 12483 12471 12455 12523;
   13109 12501 12521 12531; 13110 12504 12463 12479 12540 12523; 13111 12506 12477; 13112
   12506 12491 12498; 13113 12504 12523 12484; 13114 12506 12531 12473; 13115 12506 12540
   12472; 13116 12505 12540 12479; 13117 12509 12452 12531 12488; 13118 12508 12523 12488;
   13119 12507 12531; 13120 12509 12531 12489; 13121 12507 12540 12523; 13122 12507 12540
   12531; 13123 12510 12452 12463 12525; 13124 12510 12452 12523; 13125 12510 12483 12495;
   13126 12510 12523 12463; 13127 12510 12531 12471 12519 12531; 13128 12511 12463 12525
   12531; 13129 12511 12522; 13130 12511 12522 12496 12540 12523; 13131 12513 12460; 13132
   12513 12460 12488 12531; 13133 12513 12540 12488 12523; 13134 12516 12540 12489; 13135
   12516 12540 12523; 13136 12518 12450 12531; 13137 12522 12483 12488 12523; 13138 12522
   12521; 13139 12523 12500 12540; 13140 12523 12540 12502 12523; 13141 12524 12512; 13142
   12524 12531 12488 12466 12531; 13143 12527 12483 12488; 13144 48 28857; 13145 49 28857;
   13146 50 28857; 13147 51 28857; 13148 52 28857; 13149 53 28857; 13150 54 28857; 13151 55
   28857; 13152 56 28857; 13153 57 28857; 13154 49 48 28857; 13155 49 49 28857; 13156 49 50
   28857; 13157 49 51 28857; 13158 49 52 28857; 13159 49 53 28857; 13160 49 54 28857; 13161 49
   55 28857; 13162 49 56 28857; 13163 49 57 28857; 13164 50 48 28857; 13165 50 49 28857; 13166
   50 50 28857; 13167 50 51 28857; 13168 50 52 28857; 13169 104 112 97; 13170 100 97; 13171 97
   117; 13172 98 97 114; 13173 111 118; 13174 112 99; 13175 100 109; 13176 100 109 50; 13177
   100 109 51; 13178 105 117; 13179 24179 25104; 13180 26157 21644; 13181 22823 27491; 13182
   26126 27835; 13183 26666 24335 20250 31038; 13184 112 97; 13185 110 97; 13186 956 97; 13187
   109 97; 13188 107 97; 13189 107 98; 13190 109 98; 13191 103 98; 13192 99 97 108; 13193 107
   99 97 108; 13194 112 102; 13195 110 102; 13196 956 102; 13197 956 103; 13198 109 103; 13199
   107 103; 13200 104 122; 13201 107 104 122; 13202 109 104 122; 13203 103 104 122; 13204 116
   104 122; 13205 956 108; 13206 109 108; 13207 100 108; 13208 107 108; 13209 102 109; 13210
   110 109; 13211 956 109; 13212 109 109; 13213 99 109; 13214 107 109; 13215 109 109 50; 13216
   99 109 50; 13217 109 50; 13218 107 109 50; 13219 109 109 51; 13220 99 109 51; 13221 109 51;
   13222 107 109 51; 13223 109 8725 115; 13224 109 8725 115 50; 13225 112 97; 13226 107 112
   97; 13227 109 112 97; 13228 103 112 97; 13229 114 97 100; 13230 114 97 100 8725 115; 13231
   114 97 100 8725 115 50; 13232 112 115; 13233 110 115; 13234 956 115; 13235 109 115; 13236
   112 118; 13237 110 118; 13238 956 118; 13239 109 118; 13240 107 118; 13241 109 118; 13242
   112 119; 13243 110 119; 13244 956 119; 13245 109 119; 13246 107 119; 13247 109 119; 13248
   107 969; 13249 109 969; 13251 98 113; 13252 99 99; 13253 99 100; 13254 99 8725 107 103;
   13256 100 98; 13257 103 121; 13258 104 97; 13259 104 112; 13260 105 110; 13261 107 107;
   13262 107 109; 13263 107 116; 13264 108 109; 13265 108 110; 13266 108 111 103; 13267 108
   120; 13268 109 98; 13269 109 105 108; 13270 109 111 108; 13271 112 104; 13273 112 112 109;
   13274 112 114; 13275 115 114; 13276 115 118; 13277 119 98; 13278 118 8725 109; 13279 97
   8725 109; 13280 49 26085; 13281 50 26085; 13282 51 26085; 13283 52 26085; 13284 53 26085;
   13285 54 26085; 13286 55 26085; 13287 56 26085; 13288 57 26085; 13289 49 48 26085; 13290 49
   49 26085; 13291 49 50 26085; 13292 49 51 26085; 13293 49 52 26085; 13294 49 53 26085; 13295
   49 54 26085; 13296 49 55 26085; 13297 49 56 26085; 13298 49 57 26085; 13299 50 48 26085;
   13300 50 49 26085; 13301 50 50 26085; 13302 50 51 26085; 13303 50 52 26085; 13304 50 53
   26085; 13305 50 54 26085; 13306 50 55 26085; 13307 50 56 26085; 13308 50 57 26085; 13309 51
   48 26085; 13310 51 49 26085; 13311 103 97 108; 64256 102 102; 64257 102 105; 64258 102 108;
   64259 102 102 105; 64260 102 102 108; 64261 115 116; 64262 115 116; 64275 1396 1398; 64276
   1396 1381; 64277 1396 1387; 64278 1406 1398; 64279 1396 1389; 64335 1488 1500; 64477 1735
   1652; 64490 1574 1575; 64491 1574 1575; 64492 1574 1749; 64493 1574 1749; 64494 1574 1608;
   64495 1574 1608; 64496 1574 1735; 64497 1574 1735; 64498 1574 1734; 64499 1574 1734; 64500
   1574 1736; 64501 1574 1736; 64502 1574 1744; 64503 1574 1744; 64504 1574 1744; 64505 1574
   1609; 64506 1574 1609; 64507 1574 1609; 64512 1574 1580; 64513 1574 1581; 64514 1574 1605;
   64515 1574 1609; 64516 1574 1610; 64517 1576 1580; 64518 1576 1581; 64519 1576 1582; 64520
   1576 1605; 64521 1576 1609; 64522 1576 1610; 64523 1578 1580; 64524 1578 1581; 64525 1578
   1582; 64526 1578 1605; 64527 1578 1609; 64528 1578 1610; 64529 1579 1580; 64530 1579 1605;
   64531 1579 1609; 64532 1579 1610; 64533 1580 1581; 64534 1580 1605; 64535 1581 1580; 64536
   1581 1605; 64537 1582 1580; 64538 1582 1581; 64539 1582 1605; 64540 1587 1580; 64541 1587
   1581; 64542 1587 1582; 64543 1587 1605; 64544 1589 1581; 64545 1589 1605; 64546 1590 1580;
   64547 1590 1581; 64548 1590 1582; 64549 1590 1605; 64550 1591 1581; 64551 1591 1605; 64552
   1592 1605; 64553 1593 1580; 64554 1593 1605; 64555 1594 1580; 64556 1594 1605; 64557 1601
   1580; 64558 1601 1581; 64559 1601 1582; 64560 1601 1605; 64561 1601 1609; 64562 1601 1610;
   64563 1602 1581; 64564 1602 1605; 64565 1602 1609; 64566 1602 1610; 64567 1603 1575; 64568
   1603 1580; 64569 1603 1581; 64570 1603 1582; 64571 1603 1604; 64572 1603 1605; 64573 1603
   1609; 64574 1603 1610; 64575 1604 1580; 64576 1604 1581; 64577 1604 1582; 64578 1604 1605;
   64579 1604 1609; 64580 1604 1610; 64581 1605 1580; 64582 1605 1581; 64583 1605 1582; 64584
   1605 1605; 64585 1605 1609; 64586 1605 1610; 64587 1606 1580; 64588 1606 1581; 64589 1606
   1582; 64590 1606 1605; 64591 1606 1609; 64592 1606 1610; 64593 1607 1580; 64594 1607 1605;
   64595 1607 1609; 64596 1607 1610; 64597 1610 1580; 64598 1610 1581; 64599 1610 1582; 64600
   1610 1605; 64601 1610 1609; 64602 1610 1610; 64603 1584 1648; 64604 1585 1648; 64605 1609
   1648; 64606 32 1612 1617; 64607 32 1613 1617; 64608 32 1614 1617; 64609 32 1615 1617; 64610
   32 1616 1617; 64611 32 1617 1648; 64612 1574 1585; 64613 1574 1586; 64614 1574 1605; 64615
   1574 1606; 64616 1574 1609; 64617 1574 1610; 64618 1576 1585; 64619 1576 1586; 64620 1576
   1605; 64621 1576 1606; 64622 1576 1609; 64623 1576 1610; 64624 1578 1585; 64625 1578 1586;
   64626 1578 1605; 64627 1578 1606; 64628 1578 1609; 64629 1578 1610; 64630 1579 1585; 64631
   1579 1586; 64632 1579 1605; 64633 1579 1606; 64634 1579 1609; 64635 1579 1610; 64636 1601
   1609; 64637 1601 1610; 64638 1602 1609; 64639 1602 1610; 64640 1603 1575; 64641 1603 1604;
   64642 1603 1605; 64643 1603 1609; 64644 1603 1610; 64645 1604 1605; 64646 1604 1609; 64647
   1604 1610; 64648 1605 1575; 64649 1605 1605; 64650 1606 1585; 64651 1606 1586; 64652 1606
   1605; 64653 1606 1606; 64654 1606 1609; 64655 1606 1610; 64656 1609 1648; 64657 1610 1585;
   64658 1610 1586; 64659 1610 1605; 64660 1610 1606; 64661 1610 1609; 64662 1610 1610; 64663
   1574 1580; 64664 1574 1581; 64665 1574 1582; 64666 1574 1605; 64667 1574 1607; 64668 1576
   1580; 64669 1576 1581; 64670 1576 1582; 64671 1576 1605; 64672 1576 1607; 64673 1578 1580;
   64674 1578 1581; 64675 1578 1582; 64676 1578 1605; 64677 1578 1607; 64678 1579 1605; 64679
   1580 1581; 64680 1580 1605; 64681 1581 1580; 64682 1581 1605; 64683 1582 1580; 64684 1582
   1605; 64685 1587 1580; 64686 1587 1581; 64687 1587 1582; 64688 1587 1605; 64689 1589 1581;
   64690 1589 1582; 64691 1589 1605; 64692 1590 1580; 64693 1590 1581; 64694 1590 1582; 64695
   1590 1605; 64696 1591 1581; 64697 1592 1605; 64698 1593 1580; 64699 1593 1605; 64700 1594
   1580; 64701 1594 1605; 64702 1601 1580; 64703 1601 1581; 64704 1601 1582; 64705 1601 1605;
   64706 1602 1581; 64707 1602 1605; 64708 1603 1580; 64709 1603 1581; 64710 1603 1582; 64711
   1603 1604; 64712 1603 1605; 64713 1604 1580; 64714 1604 1581; 64715 1604 1582; 64716 1604
   1605; 64717 1604 1607; 64718 1605 1580; 64719 1605 1581; 64720 1605 1582; 64721 1605 1605;
   64722 1606 1580; 64723 1606 1581; 64724 1606 1582; 64725 1606 1605; 64726 1606 1607; 64727
   1607 1580; 64728 1607 1605; 64729 1607 1648; 64730 1610 1580; 64731 1610 1581; 64732 1610
   1582; 64733 1610 1605; 64734 1610 1607; 64735 1574 1605; 64736 1574 1607; 64737 1576 1605;
   64738 1576 1607; 64739 1578 1605; 64740 1578 1607; 64741 1579 1605; 64742 1579 1607; 64743
   1587 1605; 64744 1587 1607; 64745 1588 1605; 64746 1588 1607; 64747 1603 1604; 64748 1603
   1605; 64749 1604 1605; 64750 1606 1605; 64751 1606 1607; 64752 1610 1605; 64753 1610 1607;
   64754 1600 1614 1617; 64755 1600 1615 1617; 64756 1600 1616 1617; 64757 1591 1609; 64758
   1591 1610; 64759 1593 1609; 64760 1593 1610; 64761 1594 1609; 64762 1594 1610; 64763 1587
   1609; 64764 1587 1610; 64765 1588 1609; 64766 1588 1610; 64767 1581 1609; 64768 1581 1610;
   64769 1580 1609; 64770 1580 1610; 64771 1582 1609; 64772 1582 1610; 64773 1589 1609; 64774
   1589 1610; 64775 1590 1609; 64776 1590 1610; 64777 1588 1580; 64778 1588 1581; 64779 1588
   1582; 64780 1588 1605; 64781 1588 1585; 64782 1587 1585; 64783 1589 1585; 64784 1590 1585;
   64785 1591 1609; 64786 1591 1610; 64787 1593 1609; 64788 1593 1610; 64789 1594 1609; 64790
   1594 1610; 64791 1587 1609; 64792 1587 1610; 64793 1588 1609; 64794 1588 1610; 64795 1581
   1609; 64796 1581 1610; 64797 1580 1609; 64798 1580 1610; 64799 1582 1609; 64800 1582 1610;
   64801 1589 1609; 64802 1589 1610; 64803 1590 1609; 64804 1590 1610; 64805 1588 1580; 64806
   1588 1581; 64807 1588 1582; 64808 1588 1605; 64809 1588 1585; 64810 1587 1585; 64811 1589
   1585; 64812 1590 1585; 64813 1588 1580; 64814 1588 1581; 64815 1588 1582; 64816 1588 1605;
   64817 1587 1607; 64818 1588 1607; 64819 1591 1605; 64820 1587 1580; 64821 1587 1581; 64822
   1587 1582; 64823 1588 1580; 64824 1588 1581; 64825 1588 1582; 64826 1591 1605; 64827 1592
   1605; 64828 1575 1611; 64829 1575 1611; 64848 1578 1580 1605; 64849 1578 1581 1580; 64850
   1578 1581 1580; 64851 1578 1581 1605; 64852 1578 1582 1605; 64853 1578 1605 1580; 64854
   1578 1605 1581; 64855 1578 1605 1582; 64856 1580 1605 1581; 64857 1580 1605 1581; 64858
   1581 1605 1610; 64859 1581 1605 1609; 64860 1587 1581 1580; 64861 1587 1580 1581; 64862
   1587 1580 1609; 64863 1587 1605 1581; 64864 1587 1605 1581; 64865 1587 1605 1580; 64866
   1587 1605 1605; 64867 1587 1605 1605; 64868 1589 1581 1581; 64869 1589 1581 1581; 64870
   1589 1605 1605; 64871 1588 1581 1605; 64872 1588 1581 1605; 64873 1588 1580 1610; 64874
   1588 1605 1582; 64875 1588 1605 1582; 64876 1588 1605 1605; 64877 1588 1605 1605; 64878
   1590 1581 1609; 64879 1590 1582 1605; 64880 1590 1582 1605; 64881 1591 1605 1581; 64882
   1591 1605 1581; 64883 1591 1605 1605; 64884 1591 1605 1610; 64885 1593 1580 1605; 64886
   1593 1605 1605; 64887 1593 1605 1605; 64888 1593 1605 1609; 64889 1594 1605 1605; 64890
   1594 1605 1610; 64891 1594 1605 1609; 64892 1601 1582 1605; 64893 1601 1582 1605; 64894
   1602 1605 1581; 64895 1602 1605 1605; 64896 1604 1581 1605; 64897 1604 1581 1610; 64898
   1604 1581 1609; 64899 1604 1580 1580; 64900 1604 1580 1580; 64901 1604 1582 1605; 64902
   1604 1582 1605; 64903 1604 1605 1581; 64904 1604 1605 1581; 64905 1605 1581 1580; 64906
   1605 1581 1605; 64907 1605 1581 1610; 64908 1605 1580 1581; 64909 1605 1580 1605; 64910
   1605 1582 1580; 64911 1605 1582 1605; 64914 1605 1580 1582; 64915 1607 1605 1580; 64916
   1607 1605 1605; 64917 1606 1581 1605; 64918 1606 1581 1609; 64919 1606 1580 1605; 64920
   1606 1580 1605; 64921 1606 1580 1609; 64922 1606 1605 1610; 64923 1606 1605 1609; 64924
   1610 1605 1605; 64925 1610 1605 1605; 64926 1576 1582 1610; 64927 1578 1580 1610; 64928
   1578 1580 1609; 64929 1578 1582 1610; 64930 1578 1582 1609; 64931 1578 1605 1610; 64932
   1578 1605 1609; 64933 1580 1605 1610; 64934 1580 1581 1609; 64935 1580 1605 1609; 64936
   1587 1582 1609; 64937 1589 1581 1610; 64938 1588 1581 1610; 64939 1590 1581 1610; 64940
   1604 1580 1610; 64941 1604 1605 1610; 64942 1610 1581 1610; 64943 1610 1580 1610; 64944
   1610 1605 1610; 64945 1605 1605 1610; 64946 1602 1605 1610; 64947 1606 1581 1610; 64948
   1602 1605 1581; 64949 1604 1581 1605; 64950 1593 1605 1610; 64951 1603 1605 1610; 64952
   1606 1580 1581; 64953 1605 1582 1610; 64954 1604 1580 1605; 64955 1603 1605 1605; 64956
   1604 1580 1605; 64957 1606 1580 1581; 64958 1580 1581 1610; 64959 1581 1580 1610; 64960
   1605 1580 1610; 64961 1601 1605 1610; 64962 1576 1581 1610; 64963 1603 1605 1605; 64964
   1593 1580 1605; 64965 1589 1605 1605; 64966 1587 1582 1610; 64967 1606 1580 1610; 65008
   1589 1604 1746; 65009 1602 1604 1746; 65010 1575 1604 1604 1607; 65011 1575 1603 1576 1585;
   65012 1605 1581 1605 1583; 65013 1589 1604 1593 1605; 65014 1585 1587 1608 1604; 65015 1593
   1604 1610 1607; 65016 1608 1587 1604 1605; 65017 1589 1604 1609; 65018 1589 1604 1609 32
   1575 1604 1604 1607 32 1593 1604 1610 1607 32 1608 1587 1604 1605; 65019 1580 1604 32 1580
   1604 1575 1604 1607; 65020 1585 1740 1575 1604; 65097 32 773; 65098 32 773; 65099 32 773;
   65100 32 773; 65136 32 1611; 65137 1600 1611; 65138 32 1612; 65140 32 1613; 65142 32 1614;
   65143 1600 1614; 65144 32 1615; 65145 1600 1615; 65146 32 1616; 65147 1600 1616; 65148 32
   1617; 65149 1600 1617; 65150 32 1618; 65151 1600 1618; 65269 1604 1570; 65270 1604 1570;
   65271 1604 1571; 65272 1604 1571; 65273 1604 1573; 65274 1604 1573; 65275 1604 1575; 65276
   1604 1575; 65507 32 772; 127233 48 44; 127234 49 44; 127235 50 44; 127236 51 44; 127237 52
   44; 127238 53 44; 127239 54 44; 127240 55 44; 127241 56 44; 127242 57 44; 127248 40 97 41;
   127249 40 98 41; 127250 40 99 41; 127251 40 100 41; 127252 40 101 41; 127253 40 102 41;
   127254 40 103 41; 127255 40 104 41; 127256 40 105 41; 127257 40 106 41; 127258 40 107 41;
   127259 40 108 41; 127260 40 109 41; 127261 40 110 41; 127262 40 111 41; 127263 40 112 41;
   127264 40 113 41; 127265 40 114 41; 127266 40 115 41; 127267 40 116 41; 127268 40 117 41;
   127269 40 118 41; 127270 40 119 41; 127271 40 120 41; 127272 40 121 41; 127273 40 122 41;
   127274 12308 115 12309; 127277 99 100; 127278 119 122; 127306 104 118; 127307 109 118;
   127308 115 100; 127309 115 115; 127310 112 112 118; 127311 119 99; 127338 109 99; 127339
   109 100; 127340 109 114; 127376 100 106; 127488 12411 12363; 127489 12467 12467; 127552
   12308 26412 12309; 127553 12308 19977 12309; 127554 12308 20108 12309; 127555 12308 23433
   12309; 127556 12308 28857 12309; 127557 12308 25171 12309; 127558 12308 30423 12309; 127559
   12308 21213 12309; 127560 12308 25943 12309"

/-- The rows of a list of numbers, four for each. -/
def rowsOf : List Int → List (Nat × ShiftRow)
  | first :: count :: step :: distance :: rest =>
    (first.toNat, ⟨first.toNat, count.toNat, step.toNat, distance⟩) :: rowsOf rest
  | _ => []

/-- The rows of the characters that are mapped to one other, by their first character. -/
def shifts : Array (Nat × ShiftRow) :=
  (rowsOf (Runs.numbers shiftText.toList)).toArray

/-- The characters that are mapped to several others, with those. -/
def expansions : Array (Nat × List Nat) :=
  (Runs.entries expansionText.toList).toArray

/-- The other character that a character is mapped to. -/
def shift? (n : Nat) : Option Nat :=
  match Runs.lookup shifts n with
  | some row => if row.covers n then some ((n : Int) + row.distance).toNat else none
  | none => none

/-- What a character is mapped to, unless it is refused. -/
def image? (c : Char) : Option Text :=
  if admitted.mem c then some [c]
  else if ignored.mem c then some []
  else
    match shift? c.toNat, Runs.entry? expansions c.toNat with
    | some n, _ => some [Char.ofNat n]
    | none, some ns => some (ns.map Char.ofNat)
    | none, none => none

end Postroom.Unicode.DomainMap
