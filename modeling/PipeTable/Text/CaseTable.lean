import PipeTable.Text.CharTable

/-! # Case mappings beyond ASCII

Most letters map to a single letter, in runs of equal distance; a few map to several.
-/

namespace PipeTable.Text

/-- Runs of characters with a single lower case letter. -/
def lowerRuns : MapTable := .ofRuns
  "192 23 1 224 24 7 1 248 40 24 2 257 50 3 2 307 7 8 2 314 17 23 2 331 46 1 1 255 1 3 2 378 8 1 1
    595 1 2 2 387 4 1 1 596 1 1 1 392 2 2 1 598 2 1 1 396 3 1 1 477 1 1 1 601 1 1 1 603 1 1 1 402 2
    1 1 608 1 1 1 611 2 1 1 617 1 1 1 616 1 1 1 409 4 1 1 623 1 1 1 626 2 1 1 629 1 3 2 417 6 1 1
    640 1 1 1 424 2 1 1 643 3 1 1 429 2 1 1 648 1 1 1 432 2 2 1 650 2 2 2 436 4 1 1 658 1 1 1 441 4
    1 1 445 8 1 1 454 1 1 1 454 2 1 1 457 1 1 1 457 2 1 1 460 1 9 2 460 19 9 2 479 19 1 1 499 1 2 2
    499 4 1 1 405 1 1 1 447 1 20 2 505 40 1 1 414 2 9 2 547 24 1 1 11365 1 1 1 572 2 1 1 410 1 1 1
    11366 3 1 1 578 2 1 1 384 1 1 1 649 1 1 1 652 1 5 2 583 298 2 2 881 6 1 1 887 9 1 1 1011 7 1 1
    940 2 3 1 941 4 1 1 972 2 2 1 973 3 17 1 945 18 9 1 963 44 1 1 983 9 12 2 985 28 1 1 952 3 1 1
    1016 2 1 1 1010 1 1 1 1019 3 3 1 891 3 16 1 1104 16 32 1 1072 80 17 2 1121 42 27 2 1163 54 1 1
    1231 1 7 2 1218 15 48 2 1233 97 38 1 1377 2927 38 1 11520 39 1 1 11559 6 1 1 11565 723 80 1
    43888 80 6 1 5112 2208 43 1 4304 45 3 1 4349 323 75 2 7681 158 1 1 223 2 48 2 7841 104 8 1 7936
    16 6 1 7952 16 8 1 7968 16 8 1 7984 16 6 1 8000 17 4 2 8017 15 8 1 8032 32 8 1 8064 16 8 1 8080
    16 8 1 8096 16 2 1 8112 2 2 1 8048 2 1 1 8115 12 4 1 8050 4 1 1 8131 12 2 1 8144 2 2 1 8054 14 2
    1 8160 2 2 1 8058 2 1 1 8165 12 2 1 8056 2 2 1 8060 2 1 1 8179 298 1 1 969 4 1 1 107 1 1 1 229 7
    1 1 8526 46 16 1 8560 35 1 1 8580 819 26 1 9424 1866 48 1 11312 96 1 1 11361 2 1 1 619 1 1 1
    7549 1 1 1 637 3 3 2 11368 6 1 1 593 1 1 1 625 1 1 1 592 1 1 1 594 2 1 1 11379 3 1 1 11382 9 2 1
    575 2 50 2 11393 107 2 2 11500 7 1 1 11507 31054 23 2 42561 64 14 2 42625 162 7 2 42787 16 31 2
    42803 71 2 2 42874 4 1 1 7545 1 5 2 42879 13 1 1 42892 2 1 1 613 3 2 2 42897 6 10 2 42903 20 1 1
    614 1 1 1 604 1 1 1 609 1 1 1 620 1 1 1 618 2 1 1 670 1 1 1 647 1 1 1 669 1 1 1 43859 1 8 2
    42933 16 1 1 42900 1 1 1 642 1 1 1 7566 1 2 2 42952 9 1 1 42961 6 2 2 42967 31 1 1 42998 22316
    26 1 65345 1247 40 1 66600 176 36 1 66776 192 11 1 66967 12 15 1 66979 16 7 1 66995 8 2 1 67003
    1772 51 1 68800 3104 32 1 71872 21920 32 1 93792 31424 34 1 125218"

/-- Runs of characters with a single upper case letter. -/
def upperRuns : MapTable := .ofRuns
  "181 1 1 924 43 23 1 192 24 7 1 216 7 1 1 376 2 24 2 256 48 1 1 73 2 3 2 306 7 8 2 313 17 23 2
    330 47 3 2 377 5 1 1 83 1 1 1 579 3 2 2 386 5 1 1 391 4 1 1 395 6 1 1 401 3 1 1 502 4 1 1 408 1
    1 1 573 4 1 1 544 3 3 2 416 7 1 1 423 5 1 1 428 3 1 1 431 4 2 2 435 5 1 1 440 4 1 1 444 2 1 1
    503 6 1 1 452 1 1 1 452 2 1 1 455 1 1 1 455 2 1 1 458 1 1 1 458 2 8 2 461 15 1 1 398 2 9 2 478
    19 1 1 497 1 1 1 497 2 1 1 500 4 20 2 504 42 9 2 546 25 1 1 571 3 2 1 11390 3 1 1 577 5 5 2 582
    9 1 1 11375 1 1 1 11373 1 1 1 11376 1 1 1 385 1 1 1 390 2 2 1 393 3 1 1 399 2 1 1 400 1 1 1
    42923 4 1 1 403 1 1 1 42924 2 1 1 404 2 1 1 42893 1 1 1 42922 2 1 1 407 1 1 1 406 1 1 1 42926 1
    1 1 11362 1 1 1 42925 3 1 1 412 2 1 1 11374 1 1 1 413 3 1 1 415 8 1 1 11364 3 1 1 422 2 1 1
    42949 1 1 1 425 4 1 1 42929 1 1 1 430 1 1 1 580 1 2 1 433 2 1 1 581 6 1 1 439 11 1 1 42930 1 1 1
    42928 167 1 1 921 44 2 2 880 6 1 1 886 4 3 1 1021 49 1 1 902 1 3 1 904 4 17 1 913 17 1 1 931 1 9
    1 931 9 1 1 908 1 2 1 910 3 1 1 914 1 1 1 920 4 1 1 934 1 1 1 928 1 1 1 975 2 12 2 984 23 1 1
    922 1 1 1 929 1 1 1 1017 1 1 1 895 2 1 1 917 3 1 1 1015 3 1 1 1018 53 32 1 1040 32 16 1 1024 17
    17 2 1120 42 27 2 1162 55 7 2 1217 13 1 1 1216 2 48 2 1232 144 38 1 1329 2927 43 1 7312 45 3 1
    7357 763 6 1 5104 2184 1 1 1042 1 1 1 1044 1 1 1 1054 1 2 1 1057 2 1 1 1058 1 1 1 1066 1 1 1
    1122 1 1 1 42570 241 1 1 42877 4 1 1 11363 17 1 1 42950 115 75 2 7680 154 1 1 7776 6 48 2 7840
    95 8 1 7944 16 6 1 7960 16 8 1 7976 16 8 1 7992 16 6 1 8008 17 4 2 8025 15 8 1 8040 16 2 1 8122
    2 4 1 8136 4 2 1 8154 2 2 1 8184 2 2 1 8170 2 2 1 8186 52 2 1 8120 14 1 1 921 18 2 1 8152 16 2 1
    8168 5 1 1 8172 361 1 1 8498 34 16 1 8544 20 1 1 8579 844 26 1 9398 1888 48 1 11264 49 1 1 11360
    4 1 1 570 1 1 1 574 2 3 2 11367 11 1 1 11378 3 1 1 11381 11 50 2 11392 107 2 2 11499 7 1 1 11506
    13 38 1 4256 39 1 1 4295 6 1 1 4301 30996 23 2 42560 64 14 2 42624 162 7 2 42786 16 31 2 42802
    71 2 2 42873 5 5 2 42878 13 1 1 42891 5 2 2 42896 3 1 1 42948 3 10 2 42902 30 8 2 42932 19 2 2
    42951 9 1 1 42960 6 2 2 42966 31 1 1 42997 861 1 1 42931 29 80 1 5024 21457 26 1 65313 1255 40 1
    66560 176 36 1 66736 191 11 1 66928 12 15 1 66940 16 7 1 66956 8 2 1 66964 1797 51 1 68736 3072
    32 1 71840 21920 32 1 93760 31426 34 1 125184"

/-- Characters whose upper case is several characters: the character, a count, the characters. -/
def upperSequences : List (Nat × List Char) := readSequences
  "223 2 83 83 329 2 700 78 496 2 74 780 912 3 921 776 769 944 3 933 776 769 1415 2 1333 1362 7830
    2 72 817 7831 2 84 776 7832 2 87 778 7833 2 89 778 7834 2 65 702 8016 2 933 787 8018 3 933 787
    768 8020 3 933 787 769 8022 3 933 787 834 8064 2 7944 921 8065 2 7945 921 8066 2 7946 921 8067 2
    7947 921 8068 2 7948 921 8069 2 7949 921 8070 2 7950 921 8071 2 7951 921 8072 2 7944 921 8073 2
    7945 921 8074 2 7946 921 8075 2 7947 921 8076 2 7948 921 8077 2 7949 921 8078 2 7950 921 8079 2
    7951 921 8080 2 7976 921 8081 2 7977 921 8082 2 7978 921 8083 2 7979 921 8084 2 7980 921 8085 2
    7981 921 8086 2 7982 921 8087 2 7983 921 8088 2 7976 921 8089 2 7977 921 8090 2 7978 921 8091 2
    7979 921 8092 2 7980 921 8093 2 7981 921 8094 2 7982 921 8095 2 7983 921 8096 2 8040 921 8097 2
    8041 921 8098 2 8042 921 8099 2 8043 921 8100 2 8044 921 8101 2 8045 921 8102 2 8046 921 8103 2
    8047 921 8104 2 8040 921 8105 2 8041 921 8106 2 8042 921 8107 2 8043 921 8108 2 8044 921 8109 2
    8045 921 8110 2 8046 921 8111 2 8047 921 8114 2 8122 921 8115 2 913 921 8116 2 902 921 8118 2
    913 834 8119 3 913 834 921 8124 2 913 921 8130 2 8138 921 8131 2 919 921 8132 2 905 921 8134 2
    919 834 8135 3 919 834 921 8140 2 919 921 8146 3 921 776 768 8147 3 921 776 769 8150 2 921 834
    8151 3 921 776 834 8162 3 933 776 768 8163 3 933 776 769 8164 2 929 787 8166 2 933 834 8167 3
    933 776 834 8178 2 8186 921 8179 2 937 921 8180 2 911 921 8182 2 937 834 8183 3 937 834 921 8188
    2 937 921 64256 2 70 70 64257 2 70 73 64258 2 70 76 64259 3 70 70 73 64260 3 70 70 76 64261 2 83
    84 64262 2 83 84 64275 2 1348 1350 64276 2 1348 1333 64277 2 1348 1339 64278 2 1358 1350 64279 2
    1348 1341"

/-- Boundaries of the characters that a search for the neighbouring letter passes over. -/
def caseIgnorableTable : CharTable := .ofGaps
  "39 1 6 1 11 1 35 1 1 1 71 1 4 1 1 1 4 1 2 2 503 192 4 2 4 1 9 2 1 1 251 7 207 1 5 1 49 45 1 1 1
    2 1 2 1 1 44 1 11 6 10 11 1 1 35 1 10 21 16 1 101 8 1 10 1 4 33 1 1 1 30 27 91 11 58 11 4 1 2 1
    24 24 43 3 44 1 7 2 6 8 41 58 55 1 1 1 4 8 4 1 3 7 10 2 13 1 15 1 58 1 4 4 8 1 20 2 26 1 2 2 57
    1 4 2 4 2 2 3 3 1 30 2 3 1 11 2 57 1 4 5 1 2 4 1 20 2 22 6 1 1 58 1 2 1 1 4 8 1 7 2 11 2 30 1 61
    1 12 1 50 1 3 1 55 1 1 3 5 3 1 4 7 2 11 2 29 1 58 1 2 1 6 1 5 2 20 2 28 2 57 2 4 4 8 1 20 2 29 1
    72 1 7 3 1 1 90 1 2 7 11 9 98 1 2 9 9 1 1 6 74 2 27 1 1 1 1 1 55 14 1 5 1 2 5 11 1 36 9 1 102 4
    1 6 1 2 2 2 25 2 4 3 16 4 13 1 2 2 6 1 15 1 94 1 608 3 946 3 29 2 30 2 30 2 64 2 1 7 8 1 2 11 3
    1 5 1 45 5 51 1 65 2 34 1 118 3 4 2 9 1 6 3 219 2 2 1 58 1 1 7 1 1 1 1 2 8 6 10 2 1 39 1 8 31 49
    4 48 1 1 5 1 1 5 1 40 9 12 2 32 4 2 2 1 3 56 1 1 2 3 1 1 3 58 8 2 2 64 6 82 3 1 13 1 7 4 1 6 1 3
    2 50 63 13 1 34 101 445 1 1 3 11 3 13 3 13 3 13 2 12 5 8 2 10 1 2 1 2 5 49 5 1 10 1 1 13 1 16 13
    51 33 2955 2 113 3 125 1 15 1 96 32 47 1 469 1 36 4 3 5 5 1 93 6 93 3 28438 1 1250 6 270 1 98 4
    1 10 1 1 28 4 80 2 14 34 78 1 23 3 103 3 3 2 8 1 3 1 4 1 25 2 5 1 151 2 26 18 13 1 38 8 25 11 46
    3 48 1 2 4 2 2 17 1 21 2 66 6 2 2 2 2 12 1 8 1 35 1 11 1 51 1 1 3 2 2 5 2 1 1 27 1 14 2 5 2 1 1
    100 5 9 3 121 1 2 1 4 1 20272 1 147 17 573 16 3 1 12 16 34 1 2 1 169 1 7 1 6 1 11 1 35 1 1 1 47
    1 45 2 67 1 21 3 513 1 226 1 149 5 1029 6 1 42 1 9 582 3 1 2 5 4 40 3 4 1 165 2 573 4 387 2 153
    11 49 4 123 1 54 15 41 1 2 2 10 3 49 4 2 2 2 1 4 1 10 1 50 3 36 5 1 8 62 1 12 2 52 9 10 4 2 1 95
    3 2 1 1 2 6 1 160 1 3 8 21 2 57 2 3 1 37 7 3 5 195 8 2 3 1 1 23 1 84 6 1 1 4 2 1 2 238 4 6 2 1 2
    27 2 85 8 2 1 1 2 106 1 1 1 2 6 1 1 101 3 2 4 1 5 259 9 1 2 256 2 1 1 4 1 144 4 2 2 4 1 32 10 40
    6 2 4 8 1 9 6 2 3 46 13 1 2 406 7 1 6 1 1 82 22 2 7 1 2 1 2 122 6 3 1 1 2 1 7 1 1 72 2 3 1 1 1
    347 2 5435 9 14007 5 59 7 9 4 1035 1 63 17 64 2 1 2 16395 4 1 7 1 2 3230 2 1 4 4700 46 2 23 544
    3 9 16 2 7 30 4 148 3 1979 55 4 50 8 1 14 1 22 5 1 15 1360 7 1 17 2 7 1 2 1 5 261 14 368 1 61 4
    1504 7 109 8 2735 5 789505 1 30 96 128 240"

/-- Boundaries of the letters that have a case and are not passed over. -/
def casedTable : CharTable := .ofGaps
  "65 26 6 26 47 1 10 1 4 1 5 23 1 31 1 195 1 4 4 208 1 27 192 4 2 2 3 3 1 1 6 1 1 3 1 1 1 20 1 83
    1 139 8 166 1 38 9 41 2839 38 1 1 5 1 2 43 2 3 672 86 2 6 2178 9 7 43 2 3 64 44 63 13 1 34 101
    278 2 6 2 38 2 6 2 8 1 1 1 1 1 1 1 31 2 53 1 7 1 1 3 3 1 7 3 4 2 6 4 13 5 3 1 7 261 1 4 1 2 10 1
    1 3 5 6 1 1 1 1 1 1 4 1 6 4 1 2 4 5 5 4 1 17 32 3 2 817 52 1814 124 2 103 6 4 3 2 12 38 1 1 5 1
    30994 46 18 28 134 78 1 23 3 4 1 59 5 2 1 1 1 5 27 2 3 1 821 43 5 9 7 80 20288 7 12 5 1033 26 6
    26 1189 80 96 36 4 36 116 11 1 15 1 7 1 2 1 11 1 15 1 7 1 2 1731 51 13 51 2989 64 21856 64 25984
    85 1 71 1 2 2 1 2 2 2 4 1 12 1 1 1 7 1 65 1 4 2 8 1 7 1 28 1 4 1 5 1 1 3 7 1 340 2 25 1 25 1 31
    1 25 1 31 1 25 1 31 1 25 1 31 1 25 1 8 1844 10 1 20 2529 68 2028 26 6 26 6 26"

end PipeTable.Text
