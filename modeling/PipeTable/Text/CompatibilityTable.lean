import PipeTable.Text.CharTable

/-! # Decompositions and compositions

Which letters and marks stand for others in a different form, which pairs join into one character,
and in which order marks stand.
-/

namespace PipeTable.Text

/-- Runs of characters that stand for a single other one. -/
def decompositionRuns : MapTable := .ofRuns
  "170 1 1 97 11 1 1 956 5 1 1 111 197 1 1 115 305 1 1 104 1 1 1 614 1 1 1 106 1 1 1 114 1 1 1 633
    1 1 1 635 1 1 1 641 1 1 1 119 1 1 1 121 40 1 1 611 1 1 1 108 1 1 1 115 1 1 1 120 1 1 1 661 92 2
    1 768 3 1 1 787 49 1 1 697 19 1 1 183 73 1 1 946 1 1 1 952 1 1 1 933 3 1 1 966 1 1 1 960 26 1 1
    954 1 2 1 961 3 1 1 920 1 1 1 949 4 1 1 931 3331 1 1 4316 3120 1 1 65 1 1 1 198 1 2 2 66 3 1 1
    69 1 1 1 398 1 8 1 71 9 1 1 79 1 1 1 546 1 1 1 80 1 1 1 82 1 2 1 84 2 1 1 87 1 1 1 97 1 2 1 592
    2 1 1 7426 1 1 1 98 1 2 1 100 2 1 1 601 1 2 1 603 2 1 1 103 2 1 1 107 1 1 1 109 1 1 1 331 1 1 1
    111 1 1 1 596 1 2 1 7446 2 1 1 112 1 2 1 116 2 1 1 7453 1 1 1 623 1 1 1 118 1 1 1 7461 1 3 1 946
    3 2 1 966 2 1 1 105 1 1 1 114 1 2 1 117 2 2 1 946 2 1 1 961 1 2 1 966 15 1 1 1085 35 1 1 594 1 1
    1 99 1 1 1 597 1 1 1 240 1 1 1 604 1 1 1 102 1 1 1 607 1 1 1 609 1 1 1 613 1 3 1 616 3 1 1 7547
    1 1 1 669 1 1 1 621 1 1 1 7557 1 1 1 671 1 1 1 625 1 1 1 624 1 4 1 626 4 1 1 632 1 2 1 642 2 1 1
    427 1 2 1 649 2 1 1 7452 1 2 1 651 2 1 1 122 1 3 1 656 3 1 1 952 511 1 1 953 179 1 1 105 14 1 1
    110 17 1 1 97 1 1 1 101 1 1 1 111 1 1 1 120 1 1 1 601 1 1 1 104 1 4 1 107 4 1 1 112 1 2 1 115
    103 1 1 67 5 1 1 400 3 1 1 103 1 1 1 72 1 1 1 72 1 1 1 72 1 1 1 104 1 1 1 295 1 1 1 73 1 1 1 73
    1 1 1 76 1 1 1 108 2 1 1 78 4 3 1 80 3 1 1 82 1 1 1 82 7 1 1 90 2 1 1 937 2 1 1 90 2 1 1 75 2 2
    1 66 3 1 1 101 1 2 1 69 3 1 1 77 1 1 1 111 1 4 1 1488 4 1 1 105 3 1 1 960 1 1 1 947 1 1 1 915 1
    1 1 928 6 1 1 68 1 2 1 100 2 2 1 105 24 1 1 73 4 1 1 86 5 1 1 88 3 1 1 76 1 2 1 67 2 1 1 77 1 1
    1 105 4 1 1 118 5 1 1 120 3 1 1 108 1 2 1 99 2 1 1 109 2813 1 1 106 1 1 1 86 242 1 1 11617 713 1
    1 21313 1 2 1 21316 248 2 1 4352 2 1 1 4522 1 1 1 4354 1 2 1 4524 2 3 1 4355 3 6 1 4528 6 1 1
    4378 1 3 1 4358 3 1 1 4385 1 10 1 4361 10 21 1 4449 21 1 1 4448 1 2 1 4372 2 2 1 4551 2 1 1 4556
    1 1 1 4558 1 1 1 4563 1 1 1 4567 1 1 1 4569 1 1 1 4380 1 1 1 4573 1 1 1 4575 1 2 1 4381 2 1 1
    4384 1 2 1 4386 2 1 1 4391 1 1 1 4393 1 5 1 4395 5 1 1 4402 1 1 1 4406 1 1 1 4416 1 1 1 4423 1 1
    1 4428 1 2 1 4593 2 3 1 4439 3 2 1 4484 2 1 1 4488 1 2 1 4497 2 1 1 4500 1 1 1 4510 1 1 1 4513
    29966 1 1 1098 1 1 1 1100 211 1 1 42863 130 1 1 67 1 1 1 70 1 1 1 81 4 1 1 294 1 1 1 339 867 1 1
    42791 1 1 1 43831 1 1 1 619 1 1 1 43858 10 1 1 653 19863 1 1 35912 1 1 1 26356 1 1 1 36554 1 1 1
    36040 1 1 1 28369 1 1 1 20018 1 1 1 21477 1 1 1 40860 1 1 1 40860 1 1 1 22865 1 1 1 37329 1 1 1
    21895 1 1 1 22856 1 1 1 25078 1 1 1 30313 1 1 1 32645 1 1 1 34367 1 1 1 34746 1 1 1 35064 1 1 1
    37007 1 1 1 27138 1 1 1 27931 1 1 1 28889 1 1 1 29662 1 1 1 33853 1 1 1 37226 1 1 1 39409 1 1 1
    20098 1 1 1 21365 1 1 1 27396 1 1 1 29211 1 1 1 34349 1 1 1 40478 1 1 1 23888 1 1 1 28651 1 1 1
    34253 1 1 1 35172 1 1 1 25289 1 1 1 33240 1 1 1 34847 1 1 1 24266 1 1 1 26391 1 1 1 28010 1 1 1
    29436 1 1 1 37070 1 1 1 20358 1 1 1 20919 1 1 1 21214 1 1 1 25796 1 1 1 27347 1 1 1 29200 1 1 1
    30439 1 1 1 32769 1 1 1 34310 1 1 1 34396 1 1 1 36335 1 1 1 38706 1 1 1 39791 1 1 1 40442 1 1 1
    30860 1 1 1 31103 1 1 1 32160 1 1 1 33737 1 1 1 37636 1 1 1 40575 1 1 1 35542 1 1 1 22751 1 1 1
    24324 1 1 1 31840 1 1 1 32894 1 1 1 29282 1 1 1 30922 1 1 1 36034 1 1 1 38647 1 1 1 22744 1 1 1
    23650 1 1 1 27155 1 1 1 28122 1 1 1 28431 1 1 1 32047 1 1 1 32311 1 1 1 38475 1 1 1 21202 1 1 1
    32907 1 1 1 20956 1 1 1 20940 1 1 1 31260 1 1 1 32190 1 1 1 33777 1 1 1 38517 1 1 1 35712 1 1 1
    25295 1 1 1 27138 1 1 1 35582 1 1 1 20025 1 1 1 23527 1 1 1 24594 1 1 1 29575 1 1 1 30064 1 1 1
    21271 1 1 1 30971 1 1 1 20415 1 1 1 24489 1 1 1 19981 1 1 1 27852 1 1 1 25976 1 1 1 32034 1 1 1
    21443 1 1 1 22622 1 1 1 30465 1 1 1 33865 1 1 1 35498 1 1 1 27578 1 1 1 36784 1 1 1 27784 1 1 1
    25342 1 1 1 33509 1 1 1 25504 1 1 1 30053 1 1 1 20142 1 1 1 20841 1 1 1 20937 1 1 1 26753 1 1 1
    31975 1 1 1 33391 1 1 1 35538 1 1 1 37327 1 1 1 21237 1 1 1 21570 1 1 1 22899 1 1 1 24300 1 1 1
    26053 1 1 1 28670 1 1 1 31018 1 1 1 38317 1 1 1 39530 1 1 1 40599 1 1 1 40654 1 1 1 21147 1 1 1
    26310 1 1 1 27511 1 1 1 36706 1 1 1 24180 1 1 1 24976 1 1 1 25088 1 1 1 25754 1 1 1 28451 1 1 1
    29001 1 1 1 29833 1 1 1 31178 1 1 1 32244 1 1 1 32879 1 1 1 36646 1 1 1 34030 1 1 1 36899 1 1 1
    37706 1 1 1 21015 1 1 1 21155 1 1 1 21693 1 1 1 28872 1 1 1 35010 1 1 1 35498 1 1 1 24265 1 1 1
    24565 1 1 1 25467 1 1 1 27566 1 1 1 31806 1 1 1 29557 1 1 1 20196 1 1 1 22265 1 1 1 23527 1 1 1
    23994 1 1 1 24604 1 1 1 29618 1 1 1 29801 1 1 1 32666 1 1 1 32838 1 1 1 37428 1 1 1 38646 1 1 1
    38728 1 1 1 38936 1 1 1 20363 1 1 1 31150 1 1 1 37300 1 1 1 38584 1 1 1 24801 1 1 1 20102 1 1 1
    20698 1 1 1 23534 1 1 1 23615 1 1 1 26009 1 1 1 27138 1 1 1 29134 1 1 1 30274 1 1 1 34044 1 1 1
    36988 1 1 1 40845 1 1 1 26248 1 1 1 38446 1 1 1 21129 1 1 1 26491 1 1 1 26611 1 1 1 27969 1 1 1
    28316 1 1 1 29705 1 1 1 30041 1 1 1 30827 1 1 1 32016 1 1 1 39006 1 1 1 20845 1 1 1 25134 1 1 1
    38520 1 1 1 20523 1 1 1 23833 1 1 1 28138 1 1 1 36650 1 1 1 24459 1 1 1 24900 1 1 1 26647 1 1 1
    29575 1 1 1 38534 1 1 1 21033 1 1 1 21519 1 1 1 23653 1 1 1 26131 1 1 1 26446 1 1 1 26792 1 1 1
    27877 1 1 1 29702 1 1 1 30178 1 1 1 32633 1 1 1 35023 1 1 1 35041 1 1 1 37324 1 1 1 38626 1 1 1
    21311 1 1 1 28346 1 1 1 21533 1 1 1 29136 1 1 1 29848 1 1 1 34298 1 1 1 38563 1 1 1 40023 1 1 1
    40607 1 1 1 26519 1 1 1 28107 1 1 1 33256 1 1 1 31435 1 1 1 31520 1 1 1 31890 1 1 1 29376 1 1 1
    28825 1 1 1 35672 1 1 1 20160 1 1 1 33590 1 1 1 21050 1 1 1 20999 1 1 1 24230 1 1 1 25299 1 1 1
    31958 1 1 1 23429 1 1 1 27934 1 1 1 26292 1 1 1 36667 1 1 1 34892 1 1 1 38477 1 1 1 35211 1 1 1
    24275 1 1 1 20800 1 1 1 21952 3 1 1 22618 2 1 1 26228 3 1 1 20958 1 1 1 29482 1 1 1 30410 1 1 1
    31036 1 1 1 31070 1 1 1 31077 1 1 1 31119 1 1 1 38742 1 1 1 31934 1 1 1 32701 2 1 1 34322 2 1 1
    35576 3 1 1 36920 1 1 1 37117 4 1 1 39151 1 1 1 39164 1 1 1 39208 1 1 1 40372 1 1 1 37086 1 1 1
    38583 1 1 1 20398 1 1 1 20711 1 1 1 20813 1 1 1 21193 1 1 1 21220 1 1 1 21329 1 1 1 21917 1 1 1
    22022 1 1 1 22120 1 1 1 22592 1 1 1 22696 1 1 1 23652 1 1 1 23662 1 1 1 24724 1 1 1 24936 1 1 1
    24974 1 1 1 25074 1 1 1 25935 1 1 1 26082 1 1 1 26257 1 1 1 26757 1 1 1 28023 1 1 1 28186 1 1 1
    28450 1 1 1 29038 1 1 1 29227 1 1 1 29730 1 1 1 30865 1 1 1 31038 1 1 1 31049 1 1 1 31048 1 1 1
    31056 1 1 1 31062 1 1 1 31069 1 2 1 31117 2 1 1 31296 1 1 1 31361 1 1 1 31680 1 1 1 32244 1 1 1
    32265 1 1 1 32321 1 1 1 32626 1 1 1 32773 1 1 1 33261 1 1 1 33401 1 1 1 33401 1 1 1 33879 1 1 1
    35088 1 1 1 35222 1 1 1 35585 1 1 1 35641 1 1 1 36051 1 1 1 36104 1 1 1 36790 1 1 1 36920 1 1 1
    38627 1 1 1 38911 1 1 1 38971 1 1 1 24693 1 1 1 148206 1 1 1 33304 3 1 1 20006 1 1 1 20917 1 1 1
    20840 1 1 1 20352 1 1 1 20805 1 1 1 20864 1 1 1 21191 1 1 1 21242 1 1 1 21917 1 1 1 21845 1 1 1
    21913 1 1 1 21986 1 1 1 22618 1 1 1 22707 1 1 1 22852 1 1 1 22868 1 1 1 23138 1 1 1 23336 1 1 1
    24274 1 1 1 24281 1 1 1 24425 1 1 1 24493 1 1 1 24792 1 1 1 24910 1 1 1 24840 1 1 1 24974 1 1 1
    24928 1 1 1 25074 1 1 1 25140 1 1 1 25540 1 1 1 25628 1 1 1 25682 1 1 1 25942 1 1 1 26228 1 1 1
    26391 1 1 1 26395 1 1 1 26454 1 1 1 27513 1 1 1 27578 1 1 1 27969 1 1 1 28379 1 1 1 28363 1 1 1
    28450 1 1 1 28702 1 1 1 29038 1 1 1 30631 1 1 1 29237 1 1 1 29359 1 1 1 29482 1 1 1 29809 1 1 1
    29958 1 1 1 30011 1 1 1 30237 1 1 1 30239 1 1 1 30410 1 1 1 30427 1 1 1 30452 1 1 1 30538 1 1 1
    30528 1 1 1 30924 1 1 1 31409 1 1 1 31680 1 1 1 31867 1 1 1 32091 1 1 1 32244 1 1 1 32574 1 1 1
    32773 1 1 1 33618 1 1 1 33775 1 1 1 34681 1 1 1 35137 1 1 1 35206 1 1 1 35222 1 1 1 35519 1 1 1
    35576 1 1 1 35531 1 1 1 35585 1 1 1 35582 1 1 1 35565 1 1 1 35641 1 1 1 35722 1 1 1 36104 1 1 1
    36664 1 1 1 36978 1 1 1 37273 1 1 1 37494 1 1 1 38524 1 1 1 38627 1 1 1 38742 1 1 1 38875 1 1 1
    38911 1 1 1 38923 1 1 1 38971 1 1 1 39698 1 1 1 40860 1 1 1 141386 1 1 1 141380 1 1 1 144341 1 1
    1 15261 1 1 1 16408 1 1 1 16441 1 1 1 152137 1 1 1 154832 1 1 1 163539 1 1 1 40771 1 1 1 40846
    71 1 1 1506 1 1 1 1488 1 2 1 1491 2 3 1 1499 3 1 1 1512 1 1 1 1514 40 1 1 1649 1 1 1 1649 1 1 1
    1659 1 1 1 1659 1 1 1 1659 1 1 1 1659 1 1 1 1662 1 1 1 1662 1 1 1 1662 1 1 1 1662 1 1 1 1664 1 1
    1 1664 1 1 1 1664 1 1 1 1664 1 1 1 1658 1 1 1 1658 1 1 1 1658 1 1 1 1658 1 1 1 1663 1 1 1 1663 1
    1 1 1663 1 1 1 1663 1 1 1 1657 1 1 1 1657 1 1 1 1657 1 1 1 1657 1 1 1 1700 1 1 1 1700 1 1 1 1700
    1 1 1 1700 1 1 1 1702 1 1 1 1702 1 1 1 1702 1 1 1 1702 1 1 1 1668 1 1 1 1668 1 1 1 1668 1 1 1
    1668 1 1 1 1667 1 1 1 1667 1 1 1 1667 1 1 1 1667 1 1 1 1670 1 1 1 1670 1 1 1 1670 1 2 1 1670 2 1
    1 1671 1 1 1 1671 1 1 1 1671 1 1 1 1677 1 1 1 1677 1 1 1 1676 1 1 1 1676 1 1 1 1678 1 1 1 1678 1
    1 1 1672 1 1 1 1672 1 1 1 1688 1 1 1 1688 1 1 1 1681 1 1 1 1681 1 1 1 1705 1 1 1 1705 1 1 1 1705
    1 1 1 1705 1 1 1 1711 1 1 1 1711 1 1 1 1711 1 1 1 1711 1 1 1 1715 1 1 1 1715 1 1 1 1715 1 1 1
    1715 1 1 1 1713 1 1 1 1713 1 1 1 1713 1 1 1 1713 1 1 1 1722 1 2 1 1722 2 1 1 1723 1 1 1 1723 1 1
    1 1723 3 1 1 1729 1 1 1 1729 1 1 1 1729 1 1 1 1729 1 1 1 1726 1 1 1 1726 1 1 1 1726 1 1 1 1726 1
    1 1 1746 1 1 1 1746 36 1 1 1709 1 1 1 1709 1 1 1 1709 1 1 1 1709 1 1 1 1735 1 1 1 1735 1 1 1
    1734 1 1 1 1734 1 1 1 1736 1 1 1 1736 2 1 1 1739 1 1 1 1739 1 1 1 1733 1 1 1 1733 1 1 1 1737 1 1
    1 1737 1 1 1 1744 1 1 1 1744 1 1 1 1744 1 1 1 1744 1 1 1 1609 1 1 1 1609 19 1 1 1740 1 1 1 1740
    1 1 1 1740 1 1 1 1740 564 1 1 95 1 1 1 95 25 1 1 95 1 1 1 95 1 1 1 95 49 1 1 1569 13 1 1 1575 1
    2 1 1575 2 1 1 1576 1 1 1 1576 1 2 1 1576 2 2 1 1577 2 1 1 1578 1 1 1 1578 1 2 1 1578 2 1 1 1579
    1 1 1 1579 1 2 1 1579 2 1 1 1580 1 1 1 1580 1 2 1 1580 2 1 1 1581 1 1 1 1581 1 2 1 1581 2 1 1
    1582 1 1 1 1582 1 2 1 1582 2 2 1 1583 2 2 1 1584 2 2 1 1585 2 2 1 1586 2 1 1 1587 1 1 1 1587 1 2
    1 1587 2 1 1 1588 1 1 1 1588 1 2 1 1588 2 1 1 1589 1 1 1 1589 1 2 1 1589 2 1 1 1590 1 1 1 1590 1
    2 1 1590 2 1 1 1591 1 1 1 1591 1 2 1 1591 2 1 1 1592 1 1 1 1592 1 2 1 1592 2 1 1 1593 1 1 1 1593
    1 2 1 1593 2 1 1 1594 1 1 1 1594 1 1 1 1594 1 1 1 1601 1 1 1 1601 1 1 1 1601 1 2 1 1601 2 1 1
    1602 1 1 1 1602 1 2 1 1602 2 1 1 1603 1 1 1 1603 1 2 1 1603 2 1 1 1604 1 1 1 1604 1 2 1 1604 2 1
    1 1605 1 1 1 1605 1 2 1 1605 2 1 1 1606 1 1 1 1606 1 2 1 1606 2 1 1 1607 1 1 1 1607 1 2 1 1607 2
    2 1 1608 2 2 1 1609 2 1 1 1610 1 1 1 1610 1 1 1 1610 28 10 1 48 17 26 1 65 30 2 2 95 3 25 1 98
    36 1 1 12530 1 1 1 12449 1 1 1 12451 1 1 1 12453 1 1 1 12455 1 1 1 12457 1 1 1 12515 1 1 1 12517
    1 1 1 12519 1 1 1 12483 1 1 1 12540 1 1 1 12450 1 1 1 12452 1 1 1 12454 1 1 1 12456 1 2 1 12458
    2 1 1 12461 1 1 1 12463 1 1 1 12465 1 1 1 12467 1 1 1 12469 1 1 1 12471 1 1 1 12473 1 1 1 12475
    1 1 1 12477 1 1 1 12479 1 1 1 12481 1 1 1 12484 1 1 1 12486 1 1 1 12488 1 6 1 12490 6 1 1 12498
    1 1 1 12501 1 1 1 12504 1 1 1 12507 1 5 1 12510 5 1 1 12516 1 1 1 12518 1 6 1 12520 6 1 1 12527
    1 1 1 12531 1 2 1 12441 2 1 1 4448 1 2 1 4352 2 1 1 4522 1 1 1 4354 1 2 1 4524 2 3 1 4355 3 6 1
    4528 6 1 1 4378 1 3 1 4358 3 1 1 4385 1 10 1 4361 13 6 1 4449 8 6 1 4455 8 6 1 4461 8 3 1 4467
    1959 2 1 720 2 1 1 230 1 1 1 665 1 1 1 595 2 1 1 675 1 1 1 43878 1 1 1 677 1 1 1 676 1 2 1 598 2
    1 1 7569 1 1 1 600 1 1 1 606 1 1 1 681 1 1 1 612 1 1 1 610 1 1 1 608 1 1 1 667 1 1 1 295 1 1 1
    668 1 1 1 615 1 1 1 644 1 2 1 682 2 1 1 620 1 1 1 122628 1 1 1 42894 1 1 1 622 1 1 1 122629 1 1
    1 654 1 1 1 122630 1 1 1 248 1 2 1 630 2 1 1 113 1 1 1 634 1 1 1 122632 1 2 1 637 2 1 1 640 1 1
    1 680 1 1 1 678 1 1 1 43879 1 1 1 679 1 1 1 648 1 1 1 11377 2 1 1 655 1 2 1 673 2 1 1 664 1 3 1
    448 3 1 1 122634 1 1 1 122654 52294 26 1 65 26 26 1 97 26 26 1 65 26 7 1 97 8 18 1 105 18 26 1
    65 26 26 1 97 26 2 2 65 3 1 1 68 3 1 1 71 3 2 1 74 4 4 1 78 5 8 1 83 8 4 1 97 5 2 2 102 3 6 1
    105 7 11 1 112 11 26 1 65 26 26 1 97 26 2 1 65 3 4 1 68 6 8 1 74 9 7 1 83 8 26 1 97 26 2 1 65 3
    4 1 68 5 5 1 73 6 1 1 79 4 7 1 83 8 26 1 97 26 26 1 65 26 26 1 97 26 26 1 65 26 26 1 97 26 26 1
    65 26 26 1 97 26 26 1 65 26 26 1 97 26 26 1 65 26 26 1 97 26 26 1 65 26 26 1 97 26 1 1 305 1 1 1
    567 3 17 1 913 17 1 1 920 1 7 1 931 8 25 1 945 26 1 1 949 1 1 1 952 1 1 1 954 1 1 1 966 1 1 1
    961 1 1 1 960 1 17 1 913 17 1 1 920 1 7 1 931 8 25 1 945 26 1 1 949 1 1 1 952 1 1 1 954 1 1 1
    966 1 1 1 961 1 1 1 960 1 17 1 913 17 1 1 920 1 7 1 931 8 25 1 945 26 1 1 949 1 1 1 952 1 1 1
    954 1 1 1 966 1 1 1 961 1 1 1 960 1 17 1 913 17 1 1 920 1 7 1 931 8 25 1 945 26 1 1 949 1 1 1
    952 1 1 1 954 1 1 1 966 1 1 1 961 1 1 1 960 1 17 1 913 17 1 1 920 1 7 1 931 8 25 1 945 26 1 1
    949 1 1 1 952 1 1 1 954 1 1 1 966 1 1 1 961 1 1 1 960 1 2 1 988 4 10 1 48 10 10 1 48 10 10 1 48
    10 10 1 48 10 10 1 48 5642 2 1 1575 2 1 1 1580 1 1 1 1583 2 1 1 1608 1 1 1 1586 1 1 1 1581 1 1 1
    1591 1 1 1 1610 1 4 1 1603 4 1 1 1587 1 1 1 1593 1 1 1 1601 1 1 1 1589 1 1 1 1602 1 1 1 1585 1 1
    1 1588 1 2 1 1578 2 1 1 1582 1 1 1 1584 1 1 1 1590 1 1 1 1592 1 1 1 1594 1 1 1 1646 1 1 1 1722 1
    1 1 1697 1 1 1 1647 2 1 1 1576 1 1 1 1580 2 1 1 1607 3 1 1 1581 2 1 1 1610 1 4 1 1603 4 1 1 1587
    1 1 1 1593 1 1 1 1601 1 1 1 1589 1 1 1 1602 2 1 1 1588 1 2 1 1578 2 1 1 1582 2 1 1 1590 2 1 1
    1594 7 1 1 1580 5 1 1 1581 2 1 1 1610 2 2 2 1604 3 1 1 1587 1 1 1 1593 2 1 1 1589 1 1 1 1602 2 1
    1 1588 3 1 1 1582 2 1 1 1590 2 1 1 1594 2 1 1 1722 2 1 1 1647 2 1 1 1576 1 1 1 1580 2 1 1 1607 3
    1 1 1581 1 1 1 1591 1 1 1 1610 1 2 2 1603 3 1 1 1606 1 1 1 1587 1 1 1 1593 1 1 1 1601 1 1 1 1589
    1 1 1 1602 2 1 1 1588 1 2 1 1578 2 1 1 1582 2 1 1 1590 1 1 1 1592 1 1 1 1594 1 1 1 1646 2 1 1
    1697 2 2 1 1575 2 1 1 1580 1 1 1 1583 1 2 1 1607 2 1 1 1586 1 1 1 1581 1 1 1 1591 1 1 1 1610 2 3
    1 1604 3 1 1 1587 1 1 1 1593 1 1 1 1601 1 1 1 1589 1 1 1 1602 1 1 1 1585 1 1 1 1588 1 2 1 1578 2
    1 1 1582 1 1 1 1584 1 1 1 1590 1 1 1 1592 1 1 1 1594 6 1 1 1576 1 1 1 1580 1 1 1 1583 2 1 1 1608
    1 1 1 1586 1 1 1 1581 1 1 1 1591 1 1 1 1610 2 3 1 1604 3 1 1 1587 1 1 1 1593 1 1 1 1601 1 1 1
    1589 1 1 1 1602 1 1 1 1585 1 1 1 1588 1 2 1 1578 2 1 1 1582 1 1 1 1584 1 1 1 1590 1 1 1 1592 1 1
    1 1594 3381 10 1 48 64528 1 1 20029 1 1 1 20024 1 1 1 20033 1 1 1 131362 1 1 1 20320 1 1 1 20398
    1 1 1 20411 1 1 1 20482 1 1 1 20602 1 1 1 20633 1 1 1 20711 1 1 1 20687 1 1 1 13470 1 1 1 132666
    1 1 1 20813 1 1 1 20820 1 1 1 20836 1 1 1 20855 1 1 1 132380 1 1 1 13497 1 1 1 20839 1 1 1 20877
    1 1 1 132427 1 1 1 20887 1 1 1 20900 1 1 1 20172 1 1 1 20908 1 1 1 20917 1 1 1 168415 1 1 1
    20981 1 1 1 20995 1 1 1 13535 1 1 1 21051 1 1 1 21062 1 1 1 21106 1 1 1 21111 1 1 1 13589 1 1 1
    21191 1 1 1 21193 1 1 1 21220 1 1 1 21242 1 2 1 21253 2 1 1 21271 1 1 1 21321 1 1 1 21329 1 1 1
    21338 1 1 1 21363 1 1 1 21373 1 1 1 21375 1 1 1 21375 1 1 1 21375 1 1 1 133676 1 1 1 28784 1 1 1
    21450 1 1 1 21471 1 1 1 133987 1 1 1 21483 1 1 1 21489 1 1 1 21510 1 1 1 21662 1 1 1 21560 1 1 1
    21576 1 1 1 21608 1 1 1 21666 1 1 1 21750 1 1 1 21776 1 1 1 21843 1 1 1 21859 1 1 1 21892 1 1 1
    21892 1 1 1 21913 1 1 1 21931 1 1 1 21939 1 1 1 21954 1 1 1 22294 1 1 1 22022 1 1 1 22295 1 1 1
    22097 1 1 1 22132 1 1 1 20999 1 1 1 22766 1 1 1 22478 1 1 1 22516 1 1 1 22541 1 1 1 22411 1 1 1
    22578 1 1 1 22577 1 1 1 22700 1 1 1 136420 1 1 1 22770 1 1 1 22775 1 1 1 22790 1 1 1 22810 1 1 1
    22818 1 1 1 22882 1 1 1 136872 1 1 1 136938 1 1 1 23020 1 1 1 23067 1 1 1 23079 1 1 1 23000 1 1
    1 23142 1 1 1 14062 1 1 1 14076 1 1 1 23304 1 1 1 23358 1 1 1 23358 1 1 1 137672 1 1 1 23491 1 1
    1 23512 1 1 1 23527 1 1 1 23539 1 1 1 138008 1 1 1 23551 1 1 1 23558 1 1 1 24403 1 1 1 23586 1 1
    1 14209 1 1 1 23648 1 1 1 23662 1 1 1 23744 1 1 1 23693 1 1 1 138724 1 1 1 23875 1 1 1 138726 1
    1 1 23918 1 1 1 23915 1 1 1 23932 1 2 1 24033 2 1 1 14383 1 1 1 24061 1 1 1 24104 1 1 1 24125 1
    1 1 24169 1 1 1 14434 1 1 1 139651 1 1 1 14460 1 1 1 24240 1 1 1 24243 1 1 1 24246 1 1 1 24266 1
    1 1 172946 1 1 1 24318 1 1 1 140081 1 1 1 140081 1 1 1 33281 1 1 1 24354 1 1 1 24354 1 1 1 14535
    1 1 1 144056 1 1 1 156122 1 1 1 24418 1 1 1 24427 1 1 1 14563 1 1 1 24474 1 1 1 24525 1 1 1
    24535 1 1 1 24569 1 1 1 24705 1 1 1 14650 1 1 1 14620 1 1 1 24724 1 1 1 141012 1 1 1 24775 1 1 1
    24904 1 1 1 24908 1 1 1 24910 1 1 1 24908 1 1 1 24954 1 1 1 24974 1 1 1 25010 1 1 1 24996 1 1 1
    25007 1 1 1 25054 1 1 1 25074 1 1 1 25078 1 1 1 25104 1 1 1 25115 1 1 1 25181 1 1 1 25265 1 1 1
    25300 1 1 1 25424 1 1 1 142092 1 1 1 25405 1 1 1 25340 1 1 1 25448 1 1 1 25475 1 1 1 25572 1 1 1
    142321 1 1 1 25634 1 1 1 25541 1 1 1 25513 1 1 1 14894 1 1 1 25705 1 1 1 25726 1 1 1 25757 1 1 1
    25719 1 1 1 14956 1 1 1 25935 1 1 1 25964 1 1 1 143370 1 1 1 26083 1 1 1 26360 1 1 1 26185 1 1 1
    15129 1 1 1 26257 1 1 1 15112 1 1 1 15076 1 1 1 20882 1 1 1 20885 1 1 1 26368 1 1 1 26268 1 1 1
    32941 1 1 1 17369 1 1 1 26391 1 1 1 26395 1 1 1 26401 1 1 1 26462 1 1 1 26451 1 1 1 144323 1 1 1
    15177 1 1 1 26618 1 1 1 26501 1 1 1 26706 1 1 1 26757 1 1 1 144493 1 1 1 26766 1 1 1 26655 1 1 1
    26900 1 1 1 15261 1 1 1 26946 1 1 1 27043 1 1 1 27114 1 1 1 27304 1 1 1 145059 1 1 1 27355 1 1 1
    15384 1 1 1 27425 1 1 1 145575 1 1 1 27476 1 1 1 15438 1 1 1 27506 1 1 1 27551 1 2 1 27578 2 1 1
    146061 1 1 1 138507 1 1 1 146170 1 1 1 27726 1 1 1 146620 1 1 1 27839 1 1 1 27853 1 1 1 27751 1
    1 1 27926 1 1 1 27966 1 1 1 28023 1 1 1 27969 1 1 1 28009 1 1 1 28024 1 1 1 28037 1 1 1 146718 1
    1 1 27956 1 1 1 28207 1 1 1 28270 1 1 1 15667 1 1 1 28363 1 1 1 28359 1 1 1 147153 1 1 1 28153 1
    1 1 28526 1 1 1 147294 1 1 1 147342 1 1 1 28614 1 1 1 28729 1 1 1 28702 1 1 1 28699 1 1 1 15766
    1 1 1 28746 1 1 1 28797 1 1 1 28791 1 1 1 28845 1 1 1 132389 1 1 1 28997 1 1 1 148067 1 1 1
    29084 1 1 1 148395 1 1 1 29224 1 1 1 29237 1 1 1 29264 1 1 1 149000 1 1 1 29312 1 1 1 29333 1 1
    1 149301 1 1 1 149524 1 1 1 29562 1 1 1 29579 1 1 1 16044 1 1 1 29605 1 1 1 16056 1 1 1 16056 1
    1 1 29767 1 1 1 29788 1 1 1 29809 1 1 1 29829 1 1 1 29898 1 1 1 16155 1 1 1 29988 1 1 1 150582 1
    1 1 30014 1 1 1 150674 1 1 1 30064 1 1 1 139679 1 1 1 30224 1 1 1 151457 1 1 1 151480 1 1 1
    151620 1 1 1 16380 1 1 1 16392 1 1 1 30452 1 1 1 151795 1 1 1 151794 1 1 1 151833 1 1 1 151859 1
    2 1 30494 2 1 1 30495 1 1 1 30538 1 1 1 16441 1 1 1 30603 1 1 1 16454 1 1 1 16534 1 1 1 152605 1
    1 1 30798 1 1 1 30860 1 1 1 30924 1 1 1 16611 1 1 1 153126 1 1 1 31062 1 1 1 153242 1 1 1 153285
    1 1 1 31119 1 1 1 31211 1 1 1 16687 1 1 1 31296 1 1 1 31306 1 1 1 31311 1 1 1 153980 1 1 1
    154279 1 1 1 154279 1 1 1 31470 1 1 1 16898 1 1 1 154539 1 1 1 31686 1 1 1 31689 1 1 1 16935 1 1
    1 154752 1 1 1 31954 1 1 1 17056 1 1 1 31976 1 1 1 31971 1 1 1 32000 1 1 1 155526 1 1 1 32099 1
    1 1 17153 1 1 1 32199 1 1 1 32258 1 1 1 32325 1 1 1 17204 1 1 1 156200 1 1 1 156231 1 1 1 17241
    1 1 1 156377 1 1 1 32634 1 1 1 156478 1 1 1 32661 1 1 1 32762 1 1 1 32773 1 1 1 156890 1 1 1
    156963 1 1 1 32864 1 1 1 157096 1 1 1 32880 1 1 1 144223 1 1 1 17365 1 1 1 32946 1 1 1 33027 1 1
    1 17419 1 1 1 33086 1 1 1 23221 1 1 1 157607 1 1 1 157621 1 1 1 144275 1 1 1 144284 1 1 1 33281
    1 1 1 33284 1 1 1 36766 1 1 1 17515 1 1 1 33425 1 1 1 33419 1 1 1 33437 1 1 1 21171 1 1 1 33457
    1 1 1 33459 1 1 1 33469 1 1 1 33510 1 1 1 158524 1 1 1 33509 1 1 1 33565 1 1 1 33635 1 1 1 33709
    1 1 1 33571 1 1 1 33725 1 1 1 33767 1 1 1 33879 1 1 1 33619 1 1 1 33738 1 1 1 33740 1 1 1 33756
    1 1 1 158774 1 1 1 159083 1 1 1 158933 1 1 1 17707 1 1 1 34033 1 1 1 34035 1 1 1 34070 1 1 1
    160714 1 1 1 34148 1 1 1 159532 1 1 1 17757 1 1 1 17761 1 1 1 159665 1 1 1 159954 1 1 1 17771 1
    1 1 34384 1 1 1 34396 1 1 1 34407 1 1 1 34409 1 1 1 34473 1 1 1 34440 1 1 1 34574 1 1 1 34530 1
    1 1 34681 1 1 1 34600 1 1 1 34667 1 1 1 34694 1 1 1 17879 1 1 1 34785 1 1 1 34817 1 1 1 17913 1
    1 1 34912 1 1 1 34915 1 1 1 161383 1 1 1 35031 1 1 1 35038 1 1 1 17973 1 1 1 35066 1 1 1 13499 1
    1 1 161966 1 1 1 162150 1 1 1 18110 1 1 1 18119 1 1 1 35488 1 1 1 35565 1 1 1 35722 1 1 1 35925
    1 1 1 162984 1 1 1 36011 1 1 1 36033 1 1 1 36123 1 1 1 36215 1 1 1 163631 1 1 1 133124 1 1 1
    36299 1 1 1 36284 1 1 1 36336 1 1 1 133342 1 1 1 36564 1 1 1 36664 1 1 1 165330 1 1 1 165357 1 1
    1 37012 1 1 1 37105 1 1 1 37137 1 1 1 165678 1 1 1 37147 1 1 1 37432 1 2 1 37591 2 1 1 37500 1 1
    1 37881 1 1 1 37909 1 1 1 166906 1 1 1 38283 1 1 1 18837 1 1 1 38327 1 1 1 167287 1 1 1 18918 1
    1 1 38595 1 1 1 23986 1 1 1 38691 1 1 1 168261 1 1 1 168474 1 1 1 19054 1 1 1 19062 1 1 1 38880
    1 1 1 168970 1 1 1 19122 1 1 1 169110 1 1 1 38923 1 1 1 38923 1 1 1 38953 1 1 1 169398 1 1 1
    39138 1 1 1 19251 1 1 1 39209 1 1 1 39335 1 1 1 39362 1 1 1 39422 1 1 1 19406 1 1 1 170800 1 1 1
    39698 1 1 1 40000 1 1 1 40189 1 1 1 19662 1 1 1 19693 1 1 1 40295 1 1 1 172238 1 1 1 19704 1 1 1
    172293 1 1 1 172558 1 1 1 172689 1 1 1 40635 1 1 1 19798 1 1 1 40697 1 1 1 40702 1 1 1 40709 1 1
    1 40719 1 1 1 40726 1 1 1 40763 1 1 1 173568"

/-- Characters that stand for several: the character, a count, the characters. -/
def decompositionSequences : List (Nat × List Char) := readSequences
  "192 2 65 768 193 2 65 769 194 2 65 770 195 2 65 771 196 2 65 776 197 2 65 778 199 2 67 807 200 2
    69 768 201 2 69 769 202 2 69 770 203 2 69 776 204 2 73 768 205 2 73 769 206 2 73 770 207 2 73
    776 209 2 78 771 210 2 79 768 211 2 79 769 212 2 79 770 213 2 79 771 214 2 79 776 217 2 85 768
    218 2 85 769 219 2 85 770 220 2 85 776 221 2 89 769 224 2 97 768 225 2 97 769 226 2 97 770 227 2
    97 771 228 2 97 776 229 2 97 778 231 2 99 807 232 2 101 768 233 2 101 769 234 2 101 770 235 2
    101 776 236 2 105 768 237 2 105 769 238 2 105 770 239 2 105 776 241 2 110 771 242 2 111 768 243
    2 111 769 244 2 111 770 245 2 111 771 246 2 111 776 249 2 117 768 250 2 117 769 251 2 117 770
    252 2 117 776 253 2 121 769 255 2 121 776 256 2 65 772 257 2 97 772 258 2 65 774 259 2 97 774
    260 2 65 808 261 2 97 808 262 2 67 769 263 2 99 769 264 2 67 770 265 2 99 770 266 2 67 775 267 2
    99 775 268 2 67 780 269 2 99 780 270 2 68 780 271 2 100 780 274 2 69 772 275 2 101 772 276 2 69
    774 277 2 101 774 278 2 69 775 279 2 101 775 280 2 69 808 281 2 101 808 282 2 69 780 283 2 101
    780 284 2 71 770 285 2 103 770 286 2 71 774 287 2 103 774 288 2 71 775 289 2 103 775 290 2 71
    807 291 2 103 807 292 2 72 770 293 2 104 770 296 2 73 771 297 2 105 771 298 2 73 772 299 2 105
    772 300 2 73 774 301 2 105 774 302 2 73 808 303 2 105 808 304 2 73 775 306 2 73 74 307 2 105 106
    308 2 74 770 309 2 106 770 310 2 75 807 311 2 107 807 313 2 76 769 314 2 108 769 315 2 76 807
    316 2 108 807 317 2 76 780 318 2 108 780 319 2 76 183 320 2 108 183 323 2 78 769 324 2 110 769
    325 2 78 807 326 2 110 807 327 2 78 780 328 2 110 780 329 2 700 110 332 2 79 772 333 2 111 772
    334 2 79 774 335 2 111 774 336 2 79 779 337 2 111 779 340 2 82 769 341 2 114 769 342 2 82 807
    343 2 114 807 344 2 82 780 345 2 114 780 346 2 83 769 347 2 115 769 348 2 83 770 349 2 115 770
    350 2 83 807 351 2 115 807 352 2 83 780 353 2 115 780 354 2 84 807 355 2 116 807 356 2 84 780
    357 2 116 780 360 2 85 771 361 2 117 771 362 2 85 772 363 2 117 772 364 2 85 774 365 2 117 774
    366 2 85 778 367 2 117 778 368 2 85 779 369 2 117 779 370 2 85 808 371 2 117 808 372 2 87 770
    373 2 119 770 374 2 89 770 375 2 121 770 376 2 89 776 377 2 90 769 378 2 122 769 379 2 90 775
    380 2 122 775 381 2 90 780 382 2 122 780 416 2 79 795 417 2 111 795 431 2 85 795 432 2 117 795
    452 3 68 90 780 453 3 68 122 780 454 3 100 122 780 455 2 76 74 456 2 76 106 457 2 108 106 458 2
    78 74 459 2 78 106 460 2 110 106 461 2 65 780 462 2 97 780 463 2 73 780 464 2 105 780 465 2 79
    780 466 2 111 780 467 2 85 780 468 2 117 780 469 3 85 776 772 470 3 117 776 772 471 3 85 776 769
    472 3 117 776 769 473 3 85 776 780 474 3 117 776 780 475 3 85 776 768 476 3 117 776 768 478 3 65
    776 772 479 3 97 776 772 480 3 65 775 772 481 3 97 775 772 482 2 198 772 483 2 230 772 486 2 71
    780 487 2 103 780 488 2 75 780 489 2 107 780 490 2 79 808 491 2 111 808 492 3 79 808 772 493 3
    111 808 772 494 2 439 780 495 2 658 780 496 2 106 780 497 2 68 90 498 2 68 122 499 2 100 122 500
    2 71 769 501 2 103 769 504 2 78 768 505 2 110 768 506 3 65 778 769 507 3 97 778 769 508 2 198
    769 509 2 230 769 510 2 216 769 511 2 248 769 512 2 65 783 513 2 97 783 514 2 65 785 515 2 97
    785 516 2 69 783 517 2 101 783 518 2 69 785 519 2 101 785 520 2 73 783 521 2 105 783 522 2 73
    785 523 2 105 785 524 2 79 783 525 2 111 783 526 2 79 785 527 2 111 785 528 2 82 783 529 2 114
    783 530 2 82 785 531 2 114 785 532 2 85 783 533 2 117 783 534 2 85 785 535 2 117 785 536 2 83
    806 537 2 115 806 538 2 84 806 539 2 116 806 542 2 72 780 543 2 104 780 550 2 65 775 551 2 97
    775 552 2 69 807 553 2 101 807 554 3 79 776 772 555 3 111 776 772 556 3 79 771 772 557 3 111 771
    772 558 2 79 775 559 2 111 775 560 3 79 775 772 561 3 111 775 772 562 2 89 772 563 2 121 772 836
    2 776 769 902 2 913 769 904 2 917 769 905 2 919 769 906 2 921 769 908 2 927 769 910 2 933 769
    911 2 937 769 912 3 953 776 769 938 2 921 776 939 2 933 776 940 2 945 769 941 2 949 769 942 2
    951 769 943 2 953 769 944 3 965 776 769 970 2 953 776 971 2 965 776 972 2 959 769 973 2 965 769
    974 2 969 769 979 2 933 769 980 2 933 776 1024 2 1045 768 1025 2 1045 776 1027 2 1043 769 1031 2
    1030 776 1036 2 1050 769 1037 2 1048 768 1038 2 1059 774 1049 2 1048 774 1081 2 1080 774 1104 2
    1077 768 1105 2 1077 776 1107 2 1075 769 1111 2 1110 776 1116 2 1082 769 1117 2 1080 768 1118 2
    1091 774 1142 2 1140 783 1143 2 1141 783 1217 2 1046 774 1218 2 1078 774 1232 2 1040 774 1233 2
    1072 774 1234 2 1040 776 1235 2 1072 776 1238 2 1045 774 1239 2 1077 774 1242 2 1240 776 1243 2
    1241 776 1244 2 1046 776 1245 2 1078 776 1246 2 1047 776 1247 2 1079 776 1250 2 1048 772 1251 2
    1080 772 1252 2 1048 776 1253 2 1080 776 1254 2 1054 776 1255 2 1086 776 1258 2 1256 776 1259 2
    1257 776 1260 2 1069 776 1261 2 1101 776 1262 2 1059 772 1263 2 1091 772 1264 2 1059 776 1265 2
    1091 776 1266 2 1059 779 1267 2 1091 779 1268 2 1063 776 1269 2 1095 776 1272 2 1067 776 1273 2
    1099 776 1415 2 1381 1410 1570 2 1575 1619 1571 2 1575 1620 1572 2 1608 1620 1573 2 1575 1621
    1574 2 1610 1620 1653 2 1575 1652 1654 2 1608 1652 1655 2 1735 1652 1656 2 1610 1652 1728 2 1749
    1620 1730 2 1729 1620 1747 2 1746 1620 2345 2 2344 2364 2353 2 2352 2364 2356 2 2355 2364 2392 2
    2325 2364 2393 2 2326 2364 2394 2 2327 2364 2395 2 2332 2364 2396 2 2337 2364 2397 2 2338 2364
    2398 2 2347 2364 2399 2 2351 2364 2507 2 2503 2494 2508 2 2503 2519 2524 2 2465 2492 2525 2 2466
    2492 2527 2 2479 2492 2611 2 2610 2620 2614 2 2616 2620 2649 2 2582 2620 2650 2 2583 2620 2651 2
    2588 2620 2654 2 2603 2620 2888 2 2887 2902 2891 2 2887 2878 2892 2 2887 2903 2908 2 2849 2876
    2909 2 2850 2876 2964 2 2962 3031 3018 2 3014 3006 3019 2 3015 3006 3020 2 3014 3031 3144 2 3142
    3158 3264 2 3263 3285 3271 2 3270 3285 3272 2 3270 3286 3274 2 3270 3266 3275 3 3270 3266 3285
    3402 2 3398 3390 3403 2 3399 3390 3404 2 3398 3415 3546 2 3545 3530 3548 2 3545 3535 3549 3 3545
    3535 3530 3550 2 3545 3551 3635 2 3661 3634 3763 2 3789 3762 3804 2 3755 3737 3805 2 3755 3745
    3907 2 3906 4023 3917 2 3916 4023 3922 2 3921 4023 3927 2 3926 4023 3932 2 3931 4023 3945 2 3904
    4021 3955 2 3953 3954 3957 2 3953 3956 3958 2 4018 3968 3959 3 4018 3953 3968 3960 2 4019 3968
    3961 3 4019 3953 3968 3969 2 3953 3968 3987 2 3986 4023 3997 2 3996 4023 4002 2 4001 4023 4007 2
    4006 4023 4012 2 4011 4023 4025 2 3984 4021 4134 2 4133 4142 6918 2 6917 6965 6920 2 6919 6965
    6922 2 6921 6965 6924 2 6923 6965 6926 2 6925 6965 6930 2 6929 6965 6971 2 6970 6965 6973 2 6972
    6965 6976 2 6974 6965 6977 2 6975 6965 6979 2 6978 6965 7680 2 65 805 7681 2 97 805 7682 2 66
    775 7683 2 98 775 7684 2 66 803 7685 2 98 803 7686 2 66 817 7687 2 98 817 7688 3 67 807 769 7689
    3 99 807 769 7690 2 68 775 7691 2 100 775 7692 2 68 803 7693 2 100 803 7694 2 68 817 7695 2 100
    817 7696 2 68 807 7697 2 100 807 7698 2 68 813 7699 2 100 813 7700 3 69 772 768 7701 3 101 772
    768 7702 3 69 772 769 7703 3 101 772 769 7704 2 69 813 7705 2 101 813 7706 2 69 816 7707 2 101
    816 7708 3 69 807 774 7709 3 101 807 774 7710 2 70 775 7711 2 102 775 7712 2 71 772 7713 2 103
    772 7714 2 72 775 7715 2 104 775 7716 2 72 803 7717 2 104 803 7718 2 72 776 7719 2 104 776 7720
    2 72 807 7721 2 104 807 7722 2 72 814 7723 2 104 814 7724 2 73 816 7725 2 105 816 7726 3 73 776
    769 7727 3 105 776 769 7728 2 75 769 7729 2 107 769 7730 2 75 803 7731 2 107 803 7732 2 75 817
    7733 2 107 817 7734 2 76 803 7735 2 108 803 7736 3 76 803 772 7737 3 108 803 772 7738 2 76 817
    7739 2 108 817 7740 2 76 813 7741 2 108 813 7742 2 77 769 7743 2 109 769 7744 2 77 775 7745 2
    109 775 7746 2 77 803 7747 2 109 803 7748 2 78 775 7749 2 110 775 7750 2 78 803 7751 2 110 803
    7752 2 78 817 7753 2 110 817 7754 2 78 813 7755 2 110 813 7756 3 79 771 769 7757 3 111 771 769
    7758 3 79 771 776 7759 3 111 771 776 7760 3 79 772 768 7761 3 111 772 768 7762 3 79 772 769 7763
    3 111 772 769 7764 2 80 769 7765 2 112 769 7766 2 80 775 7767 2 112 775 7768 2 82 775 7769 2 114
    775 7770 2 82 803 7771 2 114 803 7772 3 82 803 772 7773 3 114 803 772 7774 2 82 817 7775 2 114
    817 7776 2 83 775 7777 2 115 775 7778 2 83 803 7779 2 115 803 7780 3 83 769 775 7781 3 115 769
    775 7782 3 83 780 775 7783 3 115 780 775 7784 3 83 803 775 7785 3 115 803 775 7786 2 84 775 7787
    2 116 775 7788 2 84 803 7789 2 116 803 7790 2 84 817 7791 2 116 817 7792 2 84 813 7793 2 116 813
    7794 2 85 804 7795 2 117 804 7796 2 85 816 7797 2 117 816 7798 2 85 813 7799 2 117 813 7800 3 85
    771 769 7801 3 117 771 769 7802 3 85 772 776 7803 3 117 772 776 7804 2 86 771 7805 2 118 771
    7806 2 86 803 7807 2 118 803 7808 2 87 768 7809 2 119 768 7810 2 87 769 7811 2 119 769 7812 2 87
    776 7813 2 119 776 7814 2 87 775 7815 2 119 775 7816 2 87 803 7817 2 119 803 7818 2 88 775 7819
    2 120 775 7820 2 88 776 7821 2 120 776 7822 2 89 775 7823 2 121 775 7824 2 90 770 7825 2 122 770
    7826 2 90 803 7827 2 122 803 7828 2 90 817 7829 2 122 817 7830 2 104 817 7831 2 116 776 7832 2
    119 778 7833 2 121 778 7834 2 97 702 7835 2 115 775 7840 2 65 803 7841 2 97 803 7842 2 65 777
    7843 2 97 777 7844 3 65 770 769 7845 3 97 770 769 7846 3 65 770 768 7847 3 97 770 768 7848 3 65
    770 777 7849 3 97 770 777 7850 3 65 770 771 7851 3 97 770 771 7852 3 65 803 770 7853 3 97 803
    770 7854 3 65 774 769 7855 3 97 774 769 7856 3 65 774 768 7857 3 97 774 768 7858 3 65 774 777
    7859 3 97 774 777 7860 3 65 774 771 7861 3 97 774 771 7862 3 65 803 774 7863 3 97 803 774 7864 2
    69 803 7865 2 101 803 7866 2 69 777 7867 2 101 777 7868 2 69 771 7869 2 101 771 7870 3 69 770
    769 7871 3 101 770 769 7872 3 69 770 768 7873 3 101 770 768 7874 3 69 770 777 7875 3 101 770 777
    7876 3 69 770 771 7877 3 101 770 771 7878 3 69 803 770 7879 3 101 803 770 7880 2 73 777 7881 2
    105 777 7882 2 73 803 7883 2 105 803 7884 2 79 803 7885 2 111 803 7886 2 79 777 7887 2 111 777
    7888 3 79 770 769 7889 3 111 770 769 7890 3 79 770 768 7891 3 111 770 768 7892 3 79 770 777 7893
    3 111 770 777 7894 3 79 770 771 7895 3 111 770 771 7896 3 79 803 770 7897 3 111 803 770 7898 3
    79 795 769 7899 3 111 795 769 7900 3 79 795 768 7901 3 111 795 768 7902 3 79 795 777 7903 3 111
    795 777 7904 3 79 795 771 7905 3 111 795 771 7906 3 79 795 803 7907 3 111 795 803 7908 2 85 803
    7909 2 117 803 7910 2 85 777 7911 2 117 777 7912 3 85 795 769 7913 3 117 795 769 7914 3 85 795
    768 7915 3 117 795 768 7916 3 85 795 777 7917 3 117 795 777 7918 3 85 795 771 7919 3 117 795 771
    7920 3 85 795 803 7921 3 117 795 803 7922 2 89 768 7923 2 121 768 7924 2 89 803 7925 2 121 803
    7926 2 89 777 7927 2 121 777 7928 2 89 771 7929 2 121 771 7936 2 945 787 7937 2 945 788 7938 3
    945 787 768 7939 3 945 788 768 7940 3 945 787 769 7941 3 945 788 769 7942 3 945 787 834 7943 3
    945 788 834 7944 2 913 787 7945 2 913 788 7946 3 913 787 768 7947 3 913 788 768 7948 3 913 787
    769 7949 3 913 788 769 7950 3 913 787 834 7951 3 913 788 834 7952 2 949 787 7953 2 949 788 7954
    3 949 787 768 7955 3 949 788 768 7956 3 949 787 769 7957 3 949 788 769 7960 2 917 787 7961 2 917
    788 7962 3 917 787 768 7963 3 917 788 768 7964 3 917 787 769 7965 3 917 788 769 7968 2 951 787
    7969 2 951 788 7970 3 951 787 768 7971 3 951 788 768 7972 3 951 787 769 7973 3 951 788 769 7974
    3 951 787 834 7975 3 951 788 834 7976 2 919 787 7977 2 919 788 7978 3 919 787 768 7979 3 919 788
    768 7980 3 919 787 769 7981 3 919 788 769 7982 3 919 787 834 7983 3 919 788 834 7984 2 953 787
    7985 2 953 788 7986 3 953 787 768 7987 3 953 788 768 7988 3 953 787 769 7989 3 953 788 769 7990
    3 953 787 834 7991 3 953 788 834 7992 2 921 787 7993 2 921 788 7994 3 921 787 768 7995 3 921 788
    768 7996 3 921 787 769 7997 3 921 788 769 7998 3 921 787 834 7999 3 921 788 834 8000 2 959 787
    8001 2 959 788 8002 3 959 787 768 8003 3 959 788 768 8004 3 959 787 769 8005 3 959 788 769 8008
    2 927 787 8009 2 927 788 8010 3 927 787 768 8011 3 927 788 768 8012 3 927 787 769 8013 3 927 788
    769 8016 2 965 787 8017 2 965 788 8018 3 965 787 768 8019 3 965 788 768 8020 3 965 787 769 8021
    3 965 788 769 8022 3 965 787 834 8023 3 965 788 834 8025 2 933 788 8027 3 933 788 768 8029 3 933
    788 769 8031 3 933 788 834 8032 2 969 787 8033 2 969 788 8034 3 969 787 768 8035 3 969 788 768
    8036 3 969 787 769 8037 3 969 788 769 8038 3 969 787 834 8039 3 969 788 834 8040 2 937 787 8041
    2 937 788 8042 3 937 787 768 8043 3 937 788 768 8044 3 937 787 769 8045 3 937 788 769 8046 3 937
    787 834 8047 3 937 788 834 8048 2 945 768 8049 2 945 769 8050 2 949 768 8051 2 949 769 8052 2
    951 768 8053 2 951 769 8054 2 953 768 8055 2 953 769 8056 2 959 768 8057 2 959 769 8058 2 965
    768 8059 2 965 769 8060 2 969 768 8061 2 969 769 8064 3 945 787 837 8065 3 945 788 837 8066 4
    945 787 768 837 8067 4 945 788 768 837 8068 4 945 787 769 837 8069 4 945 788 769 837 8070 4 945
    787 834 837 8071 4 945 788 834 837 8072 3 913 787 837 8073 3 913 788 837 8074 4 913 787 768 837
    8075 4 913 788 768 837 8076 4 913 787 769 837 8077 4 913 788 769 837 8078 4 913 787 834 837 8079
    4 913 788 834 837 8080 3 951 787 837 8081 3 951 788 837 8082 4 951 787 768 837 8083 4 951 788
    768 837 8084 4 951 787 769 837 8085 4 951 788 769 837 8086 4 951 787 834 837 8087 4 951 788 834
    837 8088 3 919 787 837 8089 3 919 788 837 8090 4 919 787 768 837 8091 4 919 788 768 837 8092 4
    919 787 769 837 8093 4 919 788 769 837 8094 4 919 787 834 837 8095 4 919 788 834 837 8096 3 969
    787 837 8097 3 969 788 837 8098 4 969 787 768 837 8099 4 969 788 768 837 8100 4 969 787 769 837
    8101 4 969 788 769 837 8102 4 969 787 834 837 8103 4 969 788 834 837 8104 3 937 787 837 8105 3
    937 788 837 8106 4 937 787 768 837 8107 4 937 788 768 837 8108 4 937 787 769 837 8109 4 937 788
    769 837 8110 4 937 787 834 837 8111 4 937 788 834 837 8112 2 945 774 8113 2 945 772 8114 3 945
    768 837 8115 2 945 837 8116 3 945 769 837 8118 2 945 834 8119 3 945 834 837 8120 2 913 774 8121
    2 913 772 8122 2 913 768 8123 2 913 769 8124 2 913 837 8130 3 951 768 837 8131 2 951 837 8132 3
    951 769 837 8134 2 951 834 8135 3 951 834 837 8136 2 917 768 8137 2 917 769 8138 2 919 768 8139
    2 919 769 8140 2 919 837 8144 2 953 774 8145 2 953 772 8146 3 953 776 768 8147 3 953 776 769
    8150 2 953 834 8151 3 953 776 834 8152 2 921 774 8153 2 921 772 8154 2 921 768 8155 2 921 769
    8160 2 965 774 8161 2 965 772 8162 3 965 776 768 8163 3 965 776 769 8164 2 961 787 8165 2 961
    788 8166 2 965 834 8167 3 965 776 834 8168 2 933 774 8169 2 933 772 8170 2 933 768 8171 2 933
    769 8172 2 929 788 8178 3 969 768 837 8179 2 969 837 8180 3 969 769 837 8182 2 969 834 8183 3
    969 834 837 8184 2 927 768 8185 2 927 769 8186 2 937 768 8187 2 937 769 8188 2 937 837 8491 2 65
    778 8545 2 73 73 8546 3 73 73 73 8547 2 73 86 8549 2 86 73 8550 3 86 73 73 8551 4 86 73 73 73
    8552 2 73 88 8554 2 88 73 8555 3 88 73 73 8561 2 105 105 8562 3 105 105 105 8563 2 105 118 8565
    2 118 105 8566 3 118 105 105 8567 4 118 105 105 105 8568 2 105 120 8570 2 120 105 8571 3 120 105
    105 12364 2 12363 12441 12366 2 12365 12441 12368 2 12367 12441 12370 2 12369 12441 12372 2
    12371 12441 12374 2 12373 12441 12376 2 12375 12441 12378 2 12377 12441 12380 2 12379 12441
    12382 2 12381 12441 12384 2 12383 12441 12386 2 12385 12441 12389 2 12388 12441 12391 2 12390
    12441 12393 2 12392 12441 12400 2 12399 12441 12401 2 12399 12442 12403 2 12402 12441 12404 2
    12402 12442 12406 2 12405 12441 12407 2 12405 12442 12409 2 12408 12441 12410 2 12408 12442
    12412 2 12411 12441 12413 2 12411 12442 12436 2 12358 12441 12446 2 12445 12441 12447 2 12424
    12426 12460 2 12459 12441 12462 2 12461 12441 12464 2 12463 12441 12466 2 12465 12441 12468 2
    12467 12441 12470 2 12469 12441 12472 2 12471 12441 12474 2 12473 12441 12476 2 12475 12441
    12478 2 12477 12441 12480 2 12479 12441 12482 2 12481 12441 12485 2 12484 12441 12487 2 12486
    12441 12489 2 12488 12441 12496 2 12495 12441 12497 2 12495 12442 12499 2 12498 12441 12500 2
    12498 12442 12502 2 12501 12441 12503 2 12501 12442 12505 2 12504 12441 12506 2 12504 12442
    12508 2 12507 12441 12509 2 12507 12442 12532 2 12454 12441 12535 2 12527 12441 12536 2 12528
    12441 12537 2 12529 12441 12538 2 12530 12441 12542 2 12541 12441 12543 2 12467 12488 64256 2
    102 102 64257 2 102 105 64258 2 102 108 64259 3 102 102 105 64260 3 102 102 108 64261 2 115 116
    64262 2 115 116 64275 2 1396 1398 64276 2 1396 1381 64277 2 1396 1387 64278 2 1406 1398 64279 2
    1396 1389 64285 2 1497 1460 64287 2 1522 1463 64298 2 1513 1473 64299 2 1513 1474 64300 3 1513
    1468 1473 64301 3 1513 1468 1474 64302 2 1488 1463 64303 2 1488 1464 64304 2 1488 1468 64305 2
    1489 1468 64306 2 1490 1468 64307 2 1491 1468 64308 2 1492 1468 64309 2 1493 1468 64310 2 1494
    1468 64312 2 1496 1468 64313 2 1497 1468 64314 2 1498 1468 64315 2 1499 1468 64316 2 1500 1468
    64318 2 1502 1468 64320 2 1504 1468 64321 2 1505 1468 64323 2 1507 1468 64324 2 1508 1468 64326
    2 1510 1468 64327 2 1511 1468 64328 2 1512 1468 64329 2 1513 1468 64330 2 1514 1468 64331 2 1493
    1465 64332 2 1489 1471 64333 2 1499 1471 64334 2 1508 1471 64335 2 1488 1500 64420 2 1749 1620
    64421 2 1749 1620 64432 2 1746 1620 64433 2 1746 1620 64477 2 1735 1652 64490 3 1610 1620 1575
    64491 3 1610 1620 1575 64492 3 1610 1620 1749 64493 3 1610 1620 1749 64494 3 1610 1620 1608
    64495 3 1610 1620 1608 64496 3 1610 1620 1735 64497 3 1610 1620 1735 64498 3 1610 1620 1734
    64499 3 1610 1620 1734 64500 3 1610 1620 1736 64501 3 1610 1620 1736 64502 3 1610 1620 1744
    64503 3 1610 1620 1744 64504 3 1610 1620 1744 64505 3 1610 1620 1609 64506 3 1610 1620 1609
    64507 3 1610 1620 1609 64512 3 1610 1620 1580 64513 3 1610 1620 1581 64514 3 1610 1620 1605
    64515 3 1610 1620 1609 64516 3 1610 1620 1610 64517 2 1576 1580 64518 2 1576 1581 64519 2 1576
    1582 64520 2 1576 1605 64521 2 1576 1609 64522 2 1576 1610 64523 2 1578 1580 64524 2 1578 1581
    64525 2 1578 1582 64526 2 1578 1605 64527 2 1578 1609 64528 2 1578 1610 64529 2 1579 1580 64530
    2 1579 1605 64531 2 1579 1609 64532 2 1579 1610 64533 2 1580 1581 64534 2 1580 1605 64535 2 1581
    1580 64536 2 1581 1605 64537 2 1582 1580 64538 2 1582 1581 64539 2 1582 1605 64540 2 1587 1580
    64541 2 1587 1581 64542 2 1587 1582 64543 2 1587 1605 64544 2 1589 1581 64545 2 1589 1605 64546
    2 1590 1580 64547 2 1590 1581 64548 2 1590 1582 64549 2 1590 1605 64550 2 1591 1581 64551 2 1591
    1605 64552 2 1592 1605 64553 2 1593 1580 64554 2 1593 1605 64555 2 1594 1580 64556 2 1594 1605
    64557 2 1601 1580 64558 2 1601 1581 64559 2 1601 1582 64560 2 1601 1605 64561 2 1601 1609 64562
    2 1601 1610 64563 2 1602 1581 64564 2 1602 1605 64565 2 1602 1609 64566 2 1602 1610 64567 2 1603
    1575 64568 2 1603 1580 64569 2 1603 1581 64570 2 1603 1582 64571 2 1603 1604 64572 2 1603 1605
    64573 2 1603 1609 64574 2 1603 1610 64575 2 1604 1580 64576 2 1604 1581 64577 2 1604 1582 64578
    2 1604 1605 64579 2 1604 1609 64580 2 1604 1610 64581 2 1605 1580 64582 2 1605 1581 64583 2 1605
    1582 64584 2 1605 1605 64585 2 1605 1609 64586 2 1605 1610 64587 2 1606 1580 64588 2 1606 1581
    64589 2 1606 1582 64590 2 1606 1605 64591 2 1606 1609 64592 2 1606 1610 64593 2 1607 1580 64594
    2 1607 1605 64595 2 1607 1609 64596 2 1607 1610 64597 2 1610 1580 64598 2 1610 1581 64599 2 1610
    1582 64600 2 1610 1605 64601 2 1610 1609 64602 2 1610 1610 64603 2 1584 1648 64604 2 1585 1648
    64605 2 1609 1648 64612 3 1610 1620 1585 64613 3 1610 1620 1586 64614 3 1610 1620 1605 64615 3
    1610 1620 1606 64616 3 1610 1620 1609 64617 3 1610 1620 1610 64618 2 1576 1585 64619 2 1576 1586
    64620 2 1576 1605 64621 2 1576 1606 64622 2 1576 1609 64623 2 1576 1610 64624 2 1578 1585 64625
    2 1578 1586 64626 2 1578 1605 64627 2 1578 1606 64628 2 1578 1609 64629 2 1578 1610 64630 2 1579
    1585 64631 2 1579 1586 64632 2 1579 1605 64633 2 1579 1606 64634 2 1579 1609 64635 2 1579 1610
    64636 2 1601 1609 64637 2 1601 1610 64638 2 1602 1609 64639 2 1602 1610 64640 2 1603 1575 64641
    2 1603 1604 64642 2 1603 1605 64643 2 1603 1609 64644 2 1603 1610 64645 2 1604 1605 64646 2 1604
    1609 64647 2 1604 1610 64648 2 1605 1575 64649 2 1605 1605 64650 2 1606 1585 64651 2 1606 1586
    64652 2 1606 1605 64653 2 1606 1606 64654 2 1606 1609 64655 2 1606 1610 64656 2 1609 1648 64657
    2 1610 1585 64658 2 1610 1586 64659 2 1610 1605 64660 2 1610 1606 64661 2 1610 1609 64662 2 1610
    1610 64663 3 1610 1620 1580 64664 3 1610 1620 1581 64665 3 1610 1620 1582 64666 3 1610 1620 1605
    64667 3 1610 1620 1607 64668 2 1576 1580 64669 2 1576 1581 64670 2 1576 1582 64671 2 1576 1605
    64672 2 1576 1607 64673 2 1578 1580 64674 2 1578 1581 64675 2 1578 1582 64676 2 1578 1605 64677
    2 1578 1607 64678 2 1579 1605 64679 2 1580 1581 64680 2 1580 1605 64681 2 1581 1580 64682 2 1581
    1605 64683 2 1582 1580 64684 2 1582 1605 64685 2 1587 1580 64686 2 1587 1581 64687 2 1587 1582
    64688 2 1587 1605 64689 2 1589 1581 64690 2 1589 1582 64691 2 1589 1605 64692 2 1590 1580 64693
    2 1590 1581 64694 2 1590 1582 64695 2 1590 1605 64696 2 1591 1581 64697 2 1592 1605 64698 2 1593
    1580 64699 2 1593 1605 64700 2 1594 1580 64701 2 1594 1605 64702 2 1601 1580 64703 2 1601 1581
    64704 2 1601 1582 64705 2 1601 1605 64706 2 1602 1581 64707 2 1602 1605 64708 2 1603 1580 64709
    2 1603 1581 64710 2 1603 1582 64711 2 1603 1604 64712 2 1603 1605 64713 2 1604 1580 64714 2 1604
    1581 64715 2 1604 1582 64716 2 1604 1605 64717 2 1604 1607 64718 2 1605 1580 64719 2 1605 1581
    64720 2 1605 1582 64721 2 1605 1605 64722 2 1606 1580 64723 2 1606 1581 64724 2 1606 1582 64725
    2 1606 1605 64726 2 1606 1607 64727 2 1607 1580 64728 2 1607 1605 64729 2 1607 1648 64730 2 1610
    1580 64731 2 1610 1581 64732 2 1610 1582 64733 2 1610 1605 64734 2 1610 1607 64735 3 1610 1620
    1605 64736 3 1610 1620 1607 64737 2 1576 1605 64738 2 1576 1607 64739 2 1578 1605 64740 2 1578
    1607 64741 2 1579 1605 64742 2 1579 1607 64743 2 1587 1605 64744 2 1587 1607 64745 2 1588 1605
    64746 2 1588 1607 64747 2 1603 1604 64748 2 1603 1605 64749 2 1604 1605 64750 2 1606 1605 64751
    2 1606 1607 64752 2 1610 1605 64753 2 1610 1607 64754 3 1600 1614 1617 64755 3 1600 1615 1617
    64756 3 1600 1616 1617 64757 2 1591 1609 64758 2 1591 1610 64759 2 1593 1609 64760 2 1593 1610
    64761 2 1594 1609 64762 2 1594 1610 64763 2 1587 1609 64764 2 1587 1610 64765 2 1588 1609 64766
    2 1588 1610 64767 2 1581 1609 64768 2 1581 1610 64769 2 1580 1609 64770 2 1580 1610 64771 2 1582
    1609 64772 2 1582 1610 64773 2 1589 1609 64774 2 1589 1610 64775 2 1590 1609 64776 2 1590 1610
    64777 2 1588 1580 64778 2 1588 1581 64779 2 1588 1582 64780 2 1588 1605 64781 2 1588 1585 64782
    2 1587 1585 64783 2 1589 1585 64784 2 1590 1585 64785 2 1591 1609 64786 2 1591 1610 64787 2 1593
    1609 64788 2 1593 1610 64789 2 1594 1609 64790 2 1594 1610 64791 2 1587 1609 64792 2 1587 1610
    64793 2 1588 1609 64794 2 1588 1610 64795 2 1581 1609 64796 2 1581 1610 64797 2 1580 1609 64798
    2 1580 1610 64799 2 1582 1609 64800 2 1582 1610 64801 2 1589 1609 64802 2 1589 1610 64803 2 1590
    1609 64804 2 1590 1610 64805 2 1588 1580 64806 2 1588 1581 64807 2 1588 1582 64808 2 1588 1605
    64809 2 1588 1585 64810 2 1587 1585 64811 2 1589 1585 64812 2 1590 1585 64813 2 1588 1580 64814
    2 1588 1581 64815 2 1588 1582 64816 2 1588 1605 64817 2 1587 1607 64818 2 1588 1607 64819 2 1591
    1605 64820 2 1587 1580 64821 2 1587 1581 64822 2 1587 1582 64823 2 1588 1580 64824 2 1588 1581
    64825 2 1588 1582 64826 2 1591 1605 64827 2 1592 1605 64828 2 1575 1611 64829 2 1575 1611 64848
    3 1578 1580 1605 64849 3 1578 1581 1580 64850 3 1578 1581 1580 64851 3 1578 1581 1605 64852 3
    1578 1582 1605 64853 3 1578 1605 1580 64854 3 1578 1605 1581 64855 3 1578 1605 1582 64856 3 1580
    1605 1581 64857 3 1580 1605 1581 64858 3 1581 1605 1610 64859 3 1581 1605 1609 64860 3 1587 1581
    1580 64861 3 1587 1580 1581 64862 3 1587 1580 1609 64863 3 1587 1605 1581 64864 3 1587 1605 1581
    64865 3 1587 1605 1580 64866 3 1587 1605 1605 64867 3 1587 1605 1605 64868 3 1589 1581 1581
    64869 3 1589 1581 1581 64870 3 1589 1605 1605 64871 3 1588 1581 1605 64872 3 1588 1581 1605
    64873 3 1588 1580 1610 64874 3 1588 1605 1582 64875 3 1588 1605 1582 64876 3 1588 1605 1605
    64877 3 1588 1605 1605 64878 3 1590 1581 1609 64879 3 1590 1582 1605 64880 3 1590 1582 1605
    64881 3 1591 1605 1581 64882 3 1591 1605 1581 64883 3 1591 1605 1605 64884 3 1591 1605 1610
    64885 3 1593 1580 1605 64886 3 1593 1605 1605 64887 3 1593 1605 1605 64888 3 1593 1605 1609
    64889 3 1594 1605 1605 64890 3 1594 1605 1610 64891 3 1594 1605 1609 64892 3 1601 1582 1605
    64893 3 1601 1582 1605 64894 3 1602 1605 1581 64895 3 1602 1605 1605 64896 3 1604 1581 1605
    64897 3 1604 1581 1610 64898 3 1604 1581 1609 64899 3 1604 1580 1580 64900 3 1604 1580 1580
    64901 3 1604 1582 1605 64902 3 1604 1582 1605 64903 3 1604 1605 1581 64904 3 1604 1605 1581
    64905 3 1605 1581 1580 64906 3 1605 1581 1605 64907 3 1605 1581 1610 64908 3 1605 1580 1581
    64909 3 1605 1580 1605 64910 3 1605 1582 1580 64911 3 1605 1582 1605 64914 3 1605 1580 1582
    64915 3 1607 1605 1580 64916 3 1607 1605 1605 64917 3 1606 1581 1605 64918 3 1606 1581 1609
    64919 3 1606 1580 1605 64920 3 1606 1580 1605 64921 3 1606 1580 1609 64922 3 1606 1605 1610
    64923 3 1606 1605 1609 64924 3 1610 1605 1605 64925 3 1610 1605 1605 64926 3 1576 1582 1610
    64927 3 1578 1580 1610 64928 3 1578 1580 1609 64929 3 1578 1582 1610 64930 3 1578 1582 1609
    64931 3 1578 1605 1610 64932 3 1578 1605 1609 64933 3 1580 1605 1610 64934 3 1580 1581 1609
    64935 3 1580 1605 1609 64936 3 1587 1582 1609 64937 3 1589 1581 1610 64938 3 1588 1581 1610
    64939 3 1590 1581 1610 64940 3 1604 1580 1610 64941 3 1604 1605 1610 64942 3 1610 1581 1610
    64943 3 1610 1580 1610 64944 3 1610 1605 1610 64945 3 1605 1605 1610 64946 3 1602 1605 1610
    64947 3 1606 1581 1610 64948 3 1602 1605 1581 64949 3 1604 1581 1605 64950 3 1593 1605 1610
    64951 3 1603 1605 1610 64952 3 1606 1580 1581 64953 3 1605 1582 1610 64954 3 1604 1580 1605
    64955 3 1603 1605 1605 64956 3 1604 1580 1605 64957 3 1606 1580 1581 64958 3 1580 1581 1610
    64959 3 1581 1580 1610 64960 3 1605 1580 1610 64961 3 1601 1605 1610 64962 3 1576 1581 1610
    64963 3 1603 1605 1605 64964 3 1593 1580 1605 64965 3 1589 1605 1605 64966 3 1587 1582 1610
    64967 3 1606 1580 1610 65008 3 1589 1604 1746 65009 3 1602 1604 1746 65010 4 1575 1604 1604 1607
    65011 4 1575 1603 1576 1585 65012 4 1605 1581 1605 1583 65013 4 1589 1604 1593 1605 65014 4 1585
    1587 1608 1604 65015 4 1593 1604 1610 1607 65016 4 1608 1587 1604 1605 65017 3 1589 1604 1609
    65137 2 1600 1611 65143 2 1600 1614 65145 2 1600 1615 65147 2 1600 1616 65149 2 1600 1617 65151
    2 1600 1618 65153 2 1575 1619 65154 2 1575 1619 65155 2 1575 1620 65156 2 1575 1620 65157 2 1608
    1620 65158 2 1608 1620 65159 2 1575 1621 65160 2 1575 1621 65161 2 1610 1620 65162 2 1610 1620
    65163 2 1610 1620 65164 2 1610 1620 65269 3 1604 1575 1619 65270 3 1604 1575 1619 65271 3 1604
    1575 1620 65272 3 1604 1575 1620 65273 3 1604 1575 1621 65274 3 1604 1575 1621 65275 2 1604 1575
    65276 2 1604 1575 69786 2 69785 69818 69788 2 69787 69818 69803 2 69797 69818 69934 2 69937
    69927 69935 2 69938 69927 70475 2 70471 70462 70476 2 70471 70487 70843 2 70841 70842 70844 2
    70841 70832 70846 2 70841 70845 71098 2 71096 71087 71099 2 71097 71087 71992 2 71989 71984"

/-- Pairs that join: the joined character, the number two, the pair. -/
def compositionSequences : List (Nat × List Char) := readSequences
  "192 2 65 768 193 2 65 769 194 2 65 770 195 2 65 771 196 2 65 776 197 2 65 778 199 2 67 807 200 2
    69 768 201 2 69 769 202 2 69 770 203 2 69 776 204 2 73 768 205 2 73 769 206 2 73 770 207 2 73
    776 209 2 78 771 210 2 79 768 211 2 79 769 212 2 79 770 213 2 79 771 214 2 79 776 217 2 85 768
    218 2 85 769 219 2 85 770 220 2 85 776 221 2 89 769 224 2 97 768 225 2 97 769 226 2 97 770 227 2
    97 771 228 2 97 776 229 2 97 778 231 2 99 807 232 2 101 768 233 2 101 769 234 2 101 770 235 2
    101 776 236 2 105 768 237 2 105 769 238 2 105 770 239 2 105 776 241 2 110 771 242 2 111 768 243
    2 111 769 244 2 111 770 245 2 111 771 246 2 111 776 249 2 117 768 250 2 117 769 251 2 117 770
    252 2 117 776 253 2 121 769 255 2 121 776 256 2 65 772 257 2 97 772 258 2 65 774 259 2 97 774
    260 2 65 808 261 2 97 808 262 2 67 769 263 2 99 769 264 2 67 770 265 2 99 770 266 2 67 775 267 2
    99 775 268 2 67 780 269 2 99 780 270 2 68 780 271 2 100 780 274 2 69 772 275 2 101 772 276 2 69
    774 277 2 101 774 278 2 69 775 279 2 101 775 280 2 69 808 281 2 101 808 282 2 69 780 283 2 101
    780 284 2 71 770 285 2 103 770 286 2 71 774 287 2 103 774 288 2 71 775 289 2 103 775 290 2 71
    807 291 2 103 807 292 2 72 770 293 2 104 770 296 2 73 771 297 2 105 771 298 2 73 772 299 2 105
    772 300 2 73 774 301 2 105 774 302 2 73 808 303 2 105 808 304 2 73 775 308 2 74 770 309 2 106
    770 310 2 75 807 311 2 107 807 313 2 76 769 314 2 108 769 315 2 76 807 316 2 108 807 317 2 76
    780 318 2 108 780 323 2 78 769 324 2 110 769 325 2 78 807 326 2 110 807 327 2 78 780 328 2 110
    780 332 2 79 772 333 2 111 772 334 2 79 774 335 2 111 774 336 2 79 779 337 2 111 779 340 2 82
    769 341 2 114 769 342 2 82 807 343 2 114 807 344 2 82 780 345 2 114 780 346 2 83 769 347 2 115
    769 348 2 83 770 349 2 115 770 350 2 83 807 351 2 115 807 352 2 83 780 353 2 115 780 354 2 84
    807 355 2 116 807 356 2 84 780 357 2 116 780 360 2 85 771 361 2 117 771 362 2 85 772 363 2 117
    772 364 2 85 774 365 2 117 774 366 2 85 778 367 2 117 778 368 2 85 779 369 2 117 779 370 2 85
    808 371 2 117 808 372 2 87 770 373 2 119 770 374 2 89 770 375 2 121 770 376 2 89 776 377 2 90
    769 378 2 122 769 379 2 90 775 380 2 122 775 381 2 90 780 382 2 122 780 416 2 79 795 417 2 111
    795 431 2 85 795 432 2 117 795 461 2 65 780 462 2 97 780 463 2 73 780 464 2 105 780 465 2 79 780
    466 2 111 780 467 2 85 780 468 2 117 780 469 2 220 772 470 2 252 772 471 2 220 769 472 2 252 769
    473 2 220 780 474 2 252 780 475 2 220 768 476 2 252 768 478 2 196 772 479 2 228 772 480 2 550
    772 481 2 551 772 482 2 198 772 483 2 230 772 486 2 71 780 487 2 103 780 488 2 75 780 489 2 107
    780 490 2 79 808 491 2 111 808 492 2 490 772 493 2 491 772 494 2 439 780 495 2 658 780 496 2 106
    780 500 2 71 769 501 2 103 769 504 2 78 768 505 2 110 768 506 2 197 769 507 2 229 769 508 2 198
    769 509 2 230 769 510 2 216 769 511 2 248 769 512 2 65 783 513 2 97 783 514 2 65 785 515 2 97
    785 516 2 69 783 517 2 101 783 518 2 69 785 519 2 101 785 520 2 73 783 521 2 105 783 522 2 73
    785 523 2 105 785 524 2 79 783 525 2 111 783 526 2 79 785 527 2 111 785 528 2 82 783 529 2 114
    783 530 2 82 785 531 2 114 785 532 2 85 783 533 2 117 783 534 2 85 785 535 2 117 785 536 2 83
    806 537 2 115 806 538 2 84 806 539 2 116 806 542 2 72 780 543 2 104 780 550 2 65 775 551 2 97
    775 552 2 69 807 553 2 101 807 554 2 214 772 555 2 246 772 556 2 213 772 557 2 245 772 558 2 79
    775 559 2 111 775 560 2 558 772 561 2 559 772 562 2 89 772 563 2 121 772 901 2 168 769 902 2 913
    769 904 2 917 769 905 2 919 769 906 2 921 769 908 2 927 769 910 2 933 769 911 2 937 769 912 2
    970 769 938 2 921 776 939 2 933 776 940 2 945 769 941 2 949 769 942 2 951 769 943 2 953 769 944
    2 971 769 970 2 953 776 971 2 965 776 972 2 959 769 973 2 965 769 974 2 969 769 979 2 978 769
    980 2 978 776 1024 2 1045 768 1025 2 1045 776 1027 2 1043 769 1031 2 1030 776 1036 2 1050 769
    1037 2 1048 768 1038 2 1059 774 1049 2 1048 774 1081 2 1080 774 1104 2 1077 768 1105 2 1077 776
    1107 2 1075 769 1111 2 1110 776 1116 2 1082 769 1117 2 1080 768 1118 2 1091 774 1142 2 1140 783
    1143 2 1141 783 1217 2 1046 774 1218 2 1078 774 1232 2 1040 774 1233 2 1072 774 1234 2 1040 776
    1235 2 1072 776 1238 2 1045 774 1239 2 1077 774 1242 2 1240 776 1243 2 1241 776 1244 2 1046 776
    1245 2 1078 776 1246 2 1047 776 1247 2 1079 776 1250 2 1048 772 1251 2 1080 772 1252 2 1048 776
    1253 2 1080 776 1254 2 1054 776 1255 2 1086 776 1258 2 1256 776 1259 2 1257 776 1260 2 1069 776
    1261 2 1101 776 1262 2 1059 772 1263 2 1091 772 1264 2 1059 776 1265 2 1091 776 1266 2 1059 779
    1267 2 1091 779 1268 2 1063 776 1269 2 1095 776 1272 2 1067 776 1273 2 1099 776 1570 2 1575 1619
    1571 2 1575 1620 1572 2 1608 1620 1573 2 1575 1621 1574 2 1610 1620 1728 2 1749 1620 1730 2 1729
    1620 1747 2 1746 1620 2345 2 2344 2364 2353 2 2352 2364 2356 2 2355 2364 2507 2 2503 2494 2508 2
    2503 2519 2888 2 2887 2902 2891 2 2887 2878 2892 2 2887 2903 2964 2 2962 3031 3018 2 3014 3006
    3019 2 3015 3006 3020 2 3014 3031 3144 2 3142 3158 3264 2 3263 3285 3271 2 3270 3285 3272 2 3270
    3286 3274 2 3270 3266 3275 2 3274 3285 3402 2 3398 3390 3403 2 3399 3390 3404 2 3398 3415 3546 2
    3545 3530 3548 2 3545 3535 3549 2 3548 3530 3550 2 3545 3551 4134 2 4133 4142 6918 2 6917 6965
    6920 2 6919 6965 6922 2 6921 6965 6924 2 6923 6965 6926 2 6925 6965 6930 2 6929 6965 6971 2 6970
    6965 6973 2 6972 6965 6976 2 6974 6965 6977 2 6975 6965 6979 2 6978 6965 7680 2 65 805 7681 2 97
    805 7682 2 66 775 7683 2 98 775 7684 2 66 803 7685 2 98 803 7686 2 66 817 7687 2 98 817 7688 2
    199 769 7689 2 231 769 7690 2 68 775 7691 2 100 775 7692 2 68 803 7693 2 100 803 7694 2 68 817
    7695 2 100 817 7696 2 68 807 7697 2 100 807 7698 2 68 813 7699 2 100 813 7700 2 274 768 7701 2
    275 768 7702 2 274 769 7703 2 275 769 7704 2 69 813 7705 2 101 813 7706 2 69 816 7707 2 101 816
    7708 2 552 774 7709 2 553 774 7710 2 70 775 7711 2 102 775 7712 2 71 772 7713 2 103 772 7714 2
    72 775 7715 2 104 775 7716 2 72 803 7717 2 104 803 7718 2 72 776 7719 2 104 776 7720 2 72 807
    7721 2 104 807 7722 2 72 814 7723 2 104 814 7724 2 73 816 7725 2 105 816 7726 2 207 769 7727 2
    239 769 7728 2 75 769 7729 2 107 769 7730 2 75 803 7731 2 107 803 7732 2 75 817 7733 2 107 817
    7734 2 76 803 7735 2 108 803 7736 2 7734 772 7737 2 7735 772 7738 2 76 817 7739 2 108 817 7740 2
    76 813 7741 2 108 813 7742 2 77 769 7743 2 109 769 7744 2 77 775 7745 2 109 775 7746 2 77 803
    7747 2 109 803 7748 2 78 775 7749 2 110 775 7750 2 78 803 7751 2 110 803 7752 2 78 817 7753 2
    110 817 7754 2 78 813 7755 2 110 813 7756 2 213 769 7757 2 245 769 7758 2 213 776 7759 2 245 776
    7760 2 332 768 7761 2 333 768 7762 2 332 769 7763 2 333 769 7764 2 80 769 7765 2 112 769 7766 2
    80 775 7767 2 112 775 7768 2 82 775 7769 2 114 775 7770 2 82 803 7771 2 114 803 7772 2 7770 772
    7773 2 7771 772 7774 2 82 817 7775 2 114 817 7776 2 83 775 7777 2 115 775 7778 2 83 803 7779 2
    115 803 7780 2 346 775 7781 2 347 775 7782 2 352 775 7783 2 353 775 7784 2 7778 775 7785 2 7779
    775 7786 2 84 775 7787 2 116 775 7788 2 84 803 7789 2 116 803 7790 2 84 817 7791 2 116 817 7792
    2 84 813 7793 2 116 813 7794 2 85 804 7795 2 117 804 7796 2 85 816 7797 2 117 816 7798 2 85 813
    7799 2 117 813 7800 2 360 769 7801 2 361 769 7802 2 362 776 7803 2 363 776 7804 2 86 771 7805 2
    118 771 7806 2 86 803 7807 2 118 803 7808 2 87 768 7809 2 119 768 7810 2 87 769 7811 2 119 769
    7812 2 87 776 7813 2 119 776 7814 2 87 775 7815 2 119 775 7816 2 87 803 7817 2 119 803 7818 2 88
    775 7819 2 120 775 7820 2 88 776 7821 2 120 776 7822 2 89 775 7823 2 121 775 7824 2 90 770 7825
    2 122 770 7826 2 90 803 7827 2 122 803 7828 2 90 817 7829 2 122 817 7830 2 104 817 7831 2 116
    776 7832 2 119 778 7833 2 121 778 7835 2 383 775 7840 2 65 803 7841 2 97 803 7842 2 65 777 7843
    2 97 777 7844 2 194 769 7845 2 226 769 7846 2 194 768 7847 2 226 768 7848 2 194 777 7849 2 226
    777 7850 2 194 771 7851 2 226 771 7852 2 7840 770 7853 2 7841 770 7854 2 258 769 7855 2 259 769
    7856 2 258 768 7857 2 259 768 7858 2 258 777 7859 2 259 777 7860 2 258 771 7861 2 259 771 7862 2
    7840 774 7863 2 7841 774 7864 2 69 803 7865 2 101 803 7866 2 69 777 7867 2 101 777 7868 2 69 771
    7869 2 101 771 7870 2 202 769 7871 2 234 769 7872 2 202 768 7873 2 234 768 7874 2 202 777 7875 2
    234 777 7876 2 202 771 7877 2 234 771 7878 2 7864 770 7879 2 7865 770 7880 2 73 777 7881 2 105
    777 7882 2 73 803 7883 2 105 803 7884 2 79 803 7885 2 111 803 7886 2 79 777 7887 2 111 777 7888
    2 212 769 7889 2 244 769 7890 2 212 768 7891 2 244 768 7892 2 212 777 7893 2 244 777 7894 2 212
    771 7895 2 244 771 7896 2 7884 770 7897 2 7885 770 7898 2 416 769 7899 2 417 769 7900 2 416 768
    7901 2 417 768 7902 2 416 777 7903 2 417 777 7904 2 416 771 7905 2 417 771 7906 2 416 803 7907 2
    417 803 7908 2 85 803 7909 2 117 803 7910 2 85 777 7911 2 117 777 7912 2 431 769 7913 2 432 769
    7914 2 431 768 7915 2 432 768 7916 2 431 777 7917 2 432 777 7918 2 431 771 7919 2 432 771 7920 2
    431 803 7921 2 432 803 7922 2 89 768 7923 2 121 768 7924 2 89 803 7925 2 121 803 7926 2 89 777
    7927 2 121 777 7928 2 89 771 7929 2 121 771 7936 2 945 787 7937 2 945 788 7938 2 7936 768 7939 2
    7937 768 7940 2 7936 769 7941 2 7937 769 7942 2 7936 834 7943 2 7937 834 7944 2 913 787 7945 2
    913 788 7946 2 7944 768 7947 2 7945 768 7948 2 7944 769 7949 2 7945 769 7950 2 7944 834 7951 2
    7945 834 7952 2 949 787 7953 2 949 788 7954 2 7952 768 7955 2 7953 768 7956 2 7952 769 7957 2
    7953 769 7960 2 917 787 7961 2 917 788 7962 2 7960 768 7963 2 7961 768 7964 2 7960 769 7965 2
    7961 769 7968 2 951 787 7969 2 951 788 7970 2 7968 768 7971 2 7969 768 7972 2 7968 769 7973 2
    7969 769 7974 2 7968 834 7975 2 7969 834 7976 2 919 787 7977 2 919 788 7978 2 7976 768 7979 2
    7977 768 7980 2 7976 769 7981 2 7977 769 7982 2 7976 834 7983 2 7977 834 7984 2 953 787 7985 2
    953 788 7986 2 7984 768 7987 2 7985 768 7988 2 7984 769 7989 2 7985 769 7990 2 7984 834 7991 2
    7985 834 7992 2 921 787 7993 2 921 788 7994 2 7992 768 7995 2 7993 768 7996 2 7992 769 7997 2
    7993 769 7998 2 7992 834 7999 2 7993 834 8000 2 959 787 8001 2 959 788 8002 2 8000 768 8003 2
    8001 768 8004 2 8000 769 8005 2 8001 769 8008 2 927 787 8009 2 927 788 8010 2 8008 768 8011 2
    8009 768 8012 2 8008 769 8013 2 8009 769 8016 2 965 787 8017 2 965 788 8018 2 8016 768 8019 2
    8017 768 8020 2 8016 769 8021 2 8017 769 8022 2 8016 834 8023 2 8017 834 8025 2 933 788 8027 2
    8025 768 8029 2 8025 769 8031 2 8025 834 8032 2 969 787 8033 2 969 788 8034 2 8032 768 8035 2
    8033 768 8036 2 8032 769 8037 2 8033 769 8038 2 8032 834 8039 2 8033 834 8040 2 937 787 8041 2
    937 788 8042 2 8040 768 8043 2 8041 768 8044 2 8040 769 8045 2 8041 769 8046 2 8040 834 8047 2
    8041 834 8048 2 945 768 8050 2 949 768 8052 2 951 768 8054 2 953 768 8056 2 959 768 8058 2 965
    768 8060 2 969 768 8064 2 7936 837 8065 2 7937 837 8066 2 7938 837 8067 2 7939 837 8068 2 7940
    837 8069 2 7941 837 8070 2 7942 837 8071 2 7943 837 8072 2 7944 837 8073 2 7945 837 8074 2 7946
    837 8075 2 7947 837 8076 2 7948 837 8077 2 7949 837 8078 2 7950 837 8079 2 7951 837 8080 2 7968
    837 8081 2 7969 837 8082 2 7970 837 8083 2 7971 837 8084 2 7972 837 8085 2 7973 837 8086 2 7974
    837 8087 2 7975 837 8088 2 7976 837 8089 2 7977 837 8090 2 7978 837 8091 2 7979 837 8092 2 7980
    837 8093 2 7981 837 8094 2 7982 837 8095 2 7983 837 8096 2 8032 837 8097 2 8033 837 8098 2 8034
    837 8099 2 8035 837 8100 2 8036 837 8101 2 8037 837 8102 2 8038 837 8103 2 8039 837 8104 2 8040
    837 8105 2 8041 837 8106 2 8042 837 8107 2 8043 837 8108 2 8044 837 8109 2 8045 837 8110 2 8046
    837 8111 2 8047 837 8112 2 945 774 8113 2 945 772 8114 2 8048 837 8115 2 945 837 8116 2 940 837
    8118 2 945 834 8119 2 8118 837 8120 2 913 774 8121 2 913 772 8122 2 913 768 8124 2 913 837 8129
    2 168 834 8130 2 8052 837 8131 2 951 837 8132 2 942 837 8134 2 951 834 8135 2 8134 837 8136 2
    917 768 8138 2 919 768 8140 2 919 837 8141 2 8127 768 8142 2 8127 769 8143 2 8127 834 8144 2 953
    774 8145 2 953 772 8146 2 970 768 8150 2 953 834 8151 2 970 834 8152 2 921 774 8153 2 921 772
    8154 2 921 768 8157 2 8190 768 8158 2 8190 769 8159 2 8190 834 8160 2 965 774 8161 2 965 772
    8162 2 971 768 8164 2 961 787 8165 2 961 788 8166 2 965 834 8167 2 971 834 8168 2 933 774 8169 2
    933 772 8170 2 933 768 8172 2 929 788 8173 2 168 768 8178 2 8060 837 8179 2 969 837 8180 2 974
    837 8182 2 969 834 8183 2 8182 837 8184 2 927 768 8186 2 937 768 8188 2 937 837 8602 2 8592 824
    8603 2 8594 824 8622 2 8596 824 8653 2 8656 824 8654 2 8660 824 8655 2 8658 824 8708 2 8707 824
    8713 2 8712 824 8716 2 8715 824 8740 2 8739 824 8742 2 8741 824 8769 2 8764 824 8772 2 8771 824
    8775 2 8773 824 8777 2 8776 824 8800 2 61 824 8802 2 8801 824 8813 2 8781 824 8814 2 60 824 8815
    2 62 824 8816 2 8804 824 8817 2 8805 824 8820 2 8818 824 8821 2 8819 824 8824 2 8822 824 8825 2
    8823 824 8832 2 8826 824 8833 2 8827 824 8836 2 8834 824 8837 2 8835 824 8840 2 8838 824 8841 2
    8839 824 8876 2 8866 824 8877 2 8872 824 8878 2 8873 824 8879 2 8875 824 8928 2 8828 824 8929 2
    8829 824 8930 2 8849 824 8931 2 8850 824 8938 2 8882 824 8939 2 8883 824 8940 2 8884 824 8941 2
    8885 824 12364 2 12363 12441 12366 2 12365 12441 12368 2 12367 12441 12370 2 12369 12441 12372 2
    12371 12441 12374 2 12373 12441 12376 2 12375 12441 12378 2 12377 12441 12380 2 12379 12441
    12382 2 12381 12441 12384 2 12383 12441 12386 2 12385 12441 12389 2 12388 12441 12391 2 12390
    12441 12393 2 12392 12441 12400 2 12399 12441 12401 2 12399 12442 12403 2 12402 12441 12404 2
    12402 12442 12406 2 12405 12441 12407 2 12405 12442 12409 2 12408 12441 12410 2 12408 12442
    12412 2 12411 12441 12413 2 12411 12442 12436 2 12358 12441 12446 2 12445 12441 12460 2 12459
    12441 12462 2 12461 12441 12464 2 12463 12441 12466 2 12465 12441 12468 2 12467 12441 12470 2
    12469 12441 12472 2 12471 12441 12474 2 12473 12441 12476 2 12475 12441 12478 2 12477 12441
    12480 2 12479 12441 12482 2 12481 12441 12485 2 12484 12441 12487 2 12486 12441 12489 2 12488
    12441 12496 2 12495 12441 12497 2 12495 12442 12499 2 12498 12441 12500 2 12498 12442 12502 2
    12501 12441 12503 2 12501 12442 12505 2 12504 12441 12506 2 12504 12442 12508 2 12507 12441
    12509 2 12507 12442 12532 2 12454 12441 12535 2 12527 12441 12536 2 12528 12441 12537 2 12529
    12441 12538 2 12530 12441 12542 2 12541 12441 69786 2 69785 69818 69788 2 69787 69818 69803 2
    69797 69818 69934 2 69937 69927 69935 2 69938 69927 70475 2 70471 70462 70476 2 70471 70487
    70843 2 70841 70842 70844 2 70841 70832 70846 2 70841 70845 71098 2 71096 71087 71099 2 71097
    71087 71992 2 71989 71984"

/-- Runs of marks of one class: the first mark as a gap, a count, a stride, the class. -/
def markRuns : MapTable := .ofRuns
  "768 21 1 230 21 1 1 232 1 4 1 220 4 1 1 232 1 1 1 216 1 5 1 220 5 2 1 202 2 4 1 220 4 2 1 202 2
    11 1 220 11 5 1 1 5 4 1 220 4 8 1 230 8 1 1 240 1 1 1 230 1 3 1 220 3 3 1 230 3 2 1 220 3 3 1
    230 3 4 1 220 4 1 1 230 1 1 1 232 1 2 1 220 2 1 1 230 1 1 1 233 1 2 1 234 2 1 1 233 1 2 1 234 2
    1 1 233 1 13 1 230 288 5 1 230 270 1 1 220 1 4 1 230 4 1 1 220 1 3 1 230 3 1 1 222 1 1 1 220 1 6
    1 230 6 6 1 220 6 2 1 230 2 1 1 220 1 2 1 230 2 1 1 222 1 1 1 228 1 1 1 230 1 1 1 10 1 1 1 11 1
    1 1 12 1 1 1 13 1 1 1 14 1 1 1 15 1 1 1 16 1 1 1 17 1 1 1 18 1 2 1 19 2 1 1 20 1 1 1 21 1 1 1 22
    2 1 1 23 2 1 1 24 1 1 1 25 2 1 1 230 1 1 1 220 2 1 1 18 73 8 1 230 8 1 1 30 1 1 1 31 1 1 1 32 49
    1 1 27 1 1 1 28 1 1 1 29 1 1 1 30 1 1 1 31 1 1 1 32 1 1 1 33 1 1 1 34 1 2 1 230 2 2 1 220 2 5 1
    230 5 1 1 220 1 2 1 230 2 1 1 220 17 1 1 35 102 7 1 230 9 4 1 230 4 1 1 220 1 1 1 230 3 2 1 230
    3 1 1 220 1 2 1 230 2 1 1 220 36 1 1 36 31 1 1 230 1 1 1 220 1 2 1 230 2 1 1 220 1 2 1 230 2 3 1
    220 3 1 1 230 1 2 1 220 2 1 1 230 1 1 1 220 1 3 1 230 3 1 1 220 1 1 1 230 1 1 1 220 1 1 1 230 1
    1 1 220 1 1 1 230 1 1 1 220 1 2 1 230 162 7 1 230 7 1 1 220 1 1 1 230 10 1 1 220 25 4 1 230 5 9
    1 230 10 3 1 230 4 5 1 230 48 3 1 220 63 1 1 230 1 3 1 220 3 4 1 230 46 5 1 230 5 5 1 220 5 14 1
    230 15 1 1 220 1 2 1 230 2 1 1 220 1 2 1 230 2 1 1 220 1 3 1 230 3 3 1 220 3 1 1 27 1 1 1 28 1 1
    1 29 1 3 1 230 3 1 1 220 1 2 1 230 2 2 1 220 2 5 1 230 65 1 1 7 17 1 1 9 4 1 1 230 1 1 1 220 1 2
    1 230 105 1 1 7 17 1 1 9 49 1 1 230 62 1 1 7 17 1 1 9 111 1 1 7 17 1 1 9 111 1 1 7 17 1 1 9 128
    1 1 9 111 1 1 7 17 1 1 9 8 1 1 84 1 1 1 91 102 1 1 7 17 1 1 9 110 2 1 9 18 1 1 9 125 1 1 9 110 2
    1 103 2 1 1 9 14 4 1 107 112 2 1 118 2 1 1 9 14 4 1 122 80 2 1 220 29 1 1 220 2 1 1 220 2 1 1
    216 56 1 1 129 1 1 1 130 2 1 1 132 6 4 1 130 6 1 1 130 2 2 1 230 2 1 1 9 2 2 1 230 64 1 1 220
    113 1 1 7 2 2 1 9 84 1 1 220 720 3 1 230 951 2 1 9 32 1 1 9 158 1 1 9 11 1 1 230 204 1 1 228 144
    1 1 222 1 1 1 230 1 1 1 220 220 1 1 230 1 1 1 220 72 1 1 9 21 8 1 230 10 1 1 220 49 5 1 230 5 6
    1 220 6 2 1 230 2 1 1 220 2 2 1 220 2 2 1 230 2 2 1 220 2 5 1 230 5 1 1 220 1 4 1 230 105 1 1 7
    16 1 1 9 39 1 1 230 1 1 1 220 1 7 1 230 61 2 1 9 60 1 1 7 12 2 1 9 69 1 1 7 153 3 1 230 4 1 1 1
    1 5 1 220 5 2 1 230 2 4 1 220 4 1 1 230 2 7 1 1 11 1 1 220 7 1 1 230 4 2 1 230 200 2 1 230 2 1 1
    220 1 7 1 230 7 1 1 220 1 2 1 230 2 1 1 234 1 1 1 214 1 1 1 220 1 1 1 202 1 37 1 230 37 1 1 232
    1 2 1 228 2 1 1 220 1 1 1 218 1 1 1 230 1 1 1 233 1 1 1 220 1 1 1 230 1 1 1 220 721 2 1 230 2 2
    1 1 2 4 1 230 4 3 1 1 3 2 1 230 6 1 1 230 4 2 1 1 2 1 1 230 1 1 1 220 1 1 1 230 1 2 1 1 2 4 1
    220 4 1 1 230 3071 3 1 230 144 1 1 9 97 32 1 230 586 1 1 218 1 1 1 228 1 1 1 232 1 1 1 222 1 2 1
    224 107 2 1 8 30166 1 1 230 5 10 1 230 42 2 1 230 82 2 1 230 278 1 1 9 38 1 1 9 152 1 1 9 28 18
    1 230 75 3 1 220 40 1 1 9 96 1 1 7 13 1 1 9 240 1 1 230 2 2 1 230 2 1 1 220 3 2 1 230 7 2 1 230
    3 1 1 230 53 1 1 9 247 1 1 9 20273 1 1 26 770 7 1 230 7 7 1 220 7 2 1 230 975 1 1 220 227 1 1
    220 150 5 1 230 1687 1 1 220 2 1 1 230 41 1 1 230 1 1 1 1 1 1 1 220 5 1 1 9 166 1 1 230 1 1 1
    220 574 4 1 230 391 2 1 230 155 2 1 220 2 3 1 230 3 1 1 220 1 1 1 230 1 4 1 220 53 1 1 230 1 1 1
    220 1 1 1 230 1 1 1 220 193 1 1 9 42 1 1 9 15 1 1 9 58 1 1 9 1 1 1 7 70 3 1 230 51 2 1 9 64 1 1
    7 77 1 1 9 10 1 1 7 107 1 1 9 1 1 1 7 179 1 1 7 1 1 1 9 81 2 1 7 18 1 1 9 25 7 1 230 10 5 1 230
    210 1 1 9 4 1 1 7 24 1 1 230 100 1 1 9 1 1 1 7 252 1 1 9 1 1 1 7 127 1 1 9 119 1 1 9 1 1 1 7 116
    1 1 9 270 1 1 9 1 1 1 7 259 2 1 9 6 1 1 7 157 1 1 9 84 1 1 9 19 1 1 9 82 1 1 9 422 1 1 9 259 1 1
    7 2 2 1 9 83 1 1 9 19801 5 1 1 64 7 1 230 1216 2 1 6 19630 1 1 1 5319 2 1 216 2 3 1 1 6 1 1 226
    1 5 1 216 13 8 1 220 10 5 1 230 5 2 1 220 32 4 1 230 152 3 1 230 3518 7 1 230 8 17 1 230 19 7 1
    230 8 2 1 230 3 5 1 230 266 7 1 230 382 1 1 230 62 4 1 230 1508 7 1 220 116 6 1 230 6 1 1 7"

end PipeTable.Text
