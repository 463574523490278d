/-
  JsonSchema.Domain.Mapping — how each character enters the name of a host.

  A character stays (`V`), is dropped (`I`), is refused (`X`), or becomes other characters,
  whose code points the table has.
-/

import JsonSchema.Unicode.CodeSet

namespace JsonSchema.Domain

open Unicode (Valued)

def mappingTable : Valued := .ofRuns "
V 65 97 1 98 1 99 1 100 1 101 1 102 1 103 1 104 1 105 1 106 1 107 1 108 1 109 1 110 1 111 1 112 1 113 1 114
1 115 1 116 1 117 1 118 1 119 1 120 1 121 1 122 1 V 37 X 32 32 1 V 7 32-776 1 V 1 97 1 V 2 I 1 V 1 32-772 1
V 2 50 1 51 1 32-769 1 956 1 V 2 32-807 1 49 1 111 1 V 1 49-8260-52 1 49-8260-50 1 51-8260-52 1 V 1 224 1
225 1 226 1 227 1 228 1 229 1 230 1 231 1 232 1 233 1 234 1 235 1 236 1 237 1 238 1 239 1 240 1 241 1 242 1
243 1 244 1 245 1 246 1 V 1 248 1 249 1 250 1 251 1 252 1 253 1 254 1 V 33 257 1 V 1 259 1 V 1 261 1 V 1 263
1 V 1 265 1 V 1 267 1 V 1 269 1 V 1 271 1 V 1 273 1 V 1 275 1 V 1 277 1 V 1 279 1 V 1 281 1 V 1 283 1 V 1
285 1 V 1 287 1 V 1 289 1 V 1 291 1 V 1 293 1 V 1 295 1 V 1 297 1 V 1 299 1 V 1 301 1 V 1 303 1 V 1 105-775
1 V 1 105-106 2 309 1 V 1 311 1 V 2 314 1 V 1 316 1 V 1 318 1 V 1 108-183 2 322 1 V 1 324 1 V 1 326 1 V 1
328 1 V 1 700-110 1 331 1 V 1 333 1 V 1 335 1 V 1 337 1 V 1 339 1 V 1 341 1 V 1 343 1 V 1 345 1 V 1 347 1 V
1 349 1 V 1 351 1 V 1 353 1 V 1 355 1 V 1 357 1 V 1 359 1 V 1 361 1 V 1 363 1 V 1 365 1 V 1 367 1 V 1 369 1
V 1 371 1 V 1 373 1 V 1 375 1 V 1 255 1 378 1 V 1 380 1 V 1 382 1 V 1 115 1 V 1 595 1 387 1 V 1 389 1 V 1
596 1 392 1 V 1 598 1 599 1 396 1 V 2 477 1 601 1 603 1 402 1 V 1 608 1 611 1 V 1 617 1 616 1 409 1 V 3 623
1 626 1 V 1 629 1 417 1 V 1 419 1 V 1 421 1 V 1 640 1 424 1 V 1 643 1 V 2 429 1 V 1 648 1 432 1 V 1 650 1
651 1 436 1 V 1 438 1 V 1 658 1 441 1 V 3 445 1 V 7 100-382 3 108-106 3 110-106 3 462 1 V 1 464 1 V 1 466 1
V 1 468 1 V 1 470 1 V 1 472 1 V 1 474 1 V 1 476 1 V 2 479 1 V 1 481 1 V 1 483 1 V 1 485 1 V 1 487 1 V 1 489
1 V 1 491 1 V 1 493 1 V 1 495 1 V 2 100-122 3 501 1 V 1 405 1 447 1 505 1 V 1 507 1 V 1 509 1 V 1 511 1 V 1
513 1 V 1 515 1 V 1 517 1 V 1 519 1 V 1 521 1 V 1 523 1 V 1 525 1 V 1 527 1 V 1 529 1 V 1 531 1 V 1 533 1 V
1 535 1 V 1 537 1 V 1 539 1 V 1 541 1 V 1 543 1 V 1 414 1 V 1 547 1 V 1 549 1 V 1 551 1 V 1 553 1 V 1 555 1
V 1 557 1 V 1 559 1 V 1 561 1 V 1 563 1 V 7 11365 1 572 1 V 1 410 1 11366 1 V 2 578 1 V 1 384 1 649 1 652 1
583 1 V 1 585 1 V 1 587 1 V 1 589 1 V 1 591 1 V 97 104 1 614 1 106 1 114 1 633 1 635 1 641 1 119 1 121 1 V
31 32-774 1 32-775 1 32-778 1 32-808 1 32-771 1 32-779 1 V 2 611 1 108 1 115 1 120 1 661 1 V 91 768 1 769 1
V 1 787 1 776-769 1 953 1 V 9 I 1 V 32 881 1 V 1 883 1 V 1 697 1 V 1 887 1 V 1 X 2 32-953 1 V 3 59 1 1011 1
X 4 32-769 1 32-776-769 1 940 1 183 1 941 1 942 1 943 1 X 1 972 1 X 1 973 1 974 1 V 1 945 1 946 1 947 1 948
1 949 1 950 1 951 1 952 1 953 1 954 1 955 1 956 1 957 1 958 1 959 1 960 1 961 1 X 1 963 1 964 1 965 1 966 1
967 1 968 1 969 1 970 1 971 1 V 35 983 1 946 1 952 1 965 1 973 1 971 1 966 1 960 1 V 1 985 1 V 1 987 1 V 1
989 1 V 1 991 1 V 1 993 1 V 1 995 1 V 1 997 1 V 1 999 1 V 1 1001 1 V 1 1003 1 V 1 1005 1 V 1 1007 1 V 1 954
1 961 1 963 1 V 1 952 1 949 1 V 1 1016 1 V 1 963 1 1019 1 V 2 891 1 892 1 893 1 1104 1 1105 1 1106 1 1107 1
1108 1 1109 1 1110 1 1111 1 1112 1 1113 1 1114 1 1115 1 1116 1 1117 1 1118 1 1119 1 1072 1 1073 1 1074 1
1075 1 1076 1 1077 1 1078 1 1079 1 1080 1 1081 1 1082 1 1083 1 1084 1 1085 1 1086 1 1087 1 1088 1 1089 1
1090 1 1091 1 1092 1 1093 1 1094 1 1095 1 1096 1 1097 1 1098 1 1099 1 1100 1 1101 1 1102 1 1103 1 V 48 1121
1 V 1 1123 1 V 1 1125 1 V 1 1127 1 V 1 1129 1 V 1 1131 1 V 1 1133 1 V 1 1135 1 V 1 1137 1 V 1 1139 1 V 1
1141 1 V 1 1143 1 V 1 1145 1 V 1 1147 1 V 1 1149 1 V 1 1151 1 V 1 1153 1 V 9 1163 1 V 1 1165 1 V 1 1167 1 V
1 1169 1 V 1 1171 1 V 1 1173 1 V 1 1175 1 V 1 1177 1 V 1 1179 1 V 1 1181 1 V 1 1183 1 V 1 1185 1 V 1 1187 1
V 1 1189 1 V 1 1191 1 V 1 1193 1 V 1 1195 1 V 1 1197 1 V 1 1199 1 V 1 1201 1 V 1 1203 1 V 1 1205 1 V 1 1207
1 V 1 1209 1 V 1 1211 1 V 1 1213 1 V 1 1215 1 V 1 1231 1 1218 1 V 1 1220 1 V 1 1222 1 V 1 1224 1 V 1 1226 1
V 1 1228 1 V 1 1230 1 V 2 1233 1 V 1 1235 1 V 1 1237 1 V 1 1239 1 V 1 1241 1 V 1 1243 1 V 1 1245 1 V 1 1247
1 V 1 1249 1 V 1 1251 1 V 1 1253 1 V 1 1255 1 V 1 1257 1 V 1 1259 1 V 1 1261 1 V 1 1263 1 V 1 1265 1 V 1
1267 1 V 1 1269 1 V 1 1271 1 V 1 1273 1 V 1 1275 1 V 1 1277 1 V 1 1279 1 V 1 1281 1 V 1 1283 1 V 1 1285 1 V
1 1287 1 V 1 1289 1 V 1 1291 1 V 1 1293 1 V 1 1295 1 V 1 1297 1 V 1 1299 1 V 1 1301 1 V 1 1303 1 V 1 1305 1
V 1 1307 1 V 1 1309 1 V 1 1311 1 V 1 1313 1 V 1 1315 1 V 1 1317 1 V 1 1319 1 V 1 1321 1 V 1 1323 1 V 1 1325
1 V 1 1327 1 V 1 X 1 1377 1 1378 1 1379 1 1380 1 1381 1 1382 1 1383 1 1384 1 1385 1 1386 1 1387 1 1388 1
1389 1 1390 1 1391 1 1392 1 1393 1 1394 1 1395 1 1396 1 1397 1 1398 1 1399 1 1400 1 1401 1 1402 1 1403 1
1404 1 1405 1 1406 1 1407 1 1408 1 1409 1 1410 1 1411 1 1412 1 1413 1 1414 1 X 2 V 46 1381-1410 1 V 3 X 2 V
3 X 1 V 55 X 8 V 27 X 4 V 6 X 17 V 22 X 1 V 88 1575-1652 1 1608-1652 1 1735-1652 1 1610-1652 1 V 100 X 1 V
48 X 2 V 59 X 2 V 101 X 14 V 59 X 2 V 49 X 2 V 15 X 1 V 28 X 2 V 1 X 1 V 11 X 5 V 32 X 7 V 75 X 1 V 117
2325-2364 1 2326-2364 1 2327-2364 1 2332-2364 1 2337-2364 1 2338-2364 1 2347-2364 1 2351-2364 1 V 36 X 1 V 8
X 2 V 2 X 2 V 22 X 1 V 7 X 1 V 1 X 3 V 4 X 2 V 9 X 2 V 2 X 2 V 4 X 8 V 1 X 4 2465-2492 1 2466-2492 1 X 1
2479-2492 1 V 4 X 2 V 25 X 2 V 3 X 1 V 6 X 4 V 2 X 2 V 22 X 1 V 7 X 1 V 1 2610-2620 1 X 1 V 1 2616-2620 1 X
1 V 2 X 2 V 1 X 1 V 5 X 4 V 2 X 2 V 3 X 3 V 1 X 7 2582-2620 1 2583-2620 1 2588-2620 1 V 1 X 1 2603-2620 1 X
7 V 17 X 10 V 3 X 1 V 9 X 1 V 3 X 1 V 22 X 1 V 7 X 1 V 2 X 1 V 5 X 2 V 10 X 1 V 3 X 1 V 3 X 2 V 1 X 15 V 4 X
2 V 12 X 7 V 7 X 1 V 3 X 1 V 8 X 2 V 2 X 2 V 22 X 1 V 7 X 1 V 2 X 1 V 5 X 2 V 9 X 2 V 2 X 2 V 3 X 7 V 3 X 4
2849-2876 1 2850-2876 1 X 1 V 5 X 2 V 18 X 10 V 2 X 1 V 6 X 3 V 3 X 1 V 4 X 3 V 2 X 1 V 1 X 1 V 2 X 3 V 2 X
3 V 3 X 3 V 12 X 4 V 5 X 3 V 3 X 1 V 4 X 2 V 1 X 6 V 1 X 14 V 21 X 5 V 13 X 1 V 3 X 1 V 23 X 1 V 16 X 2 V 9
X 1 V 3 X 1 V 4 X 7 V 2 X 1 V 3 X 1 V 2 X 2 V 4 X 2 V 10 X 7 V 22 X 1 V 3 X 1 V 23 X 1 V 10 X 1 V 5 X 2 V 9
X 1 V 3 X 1 V 4 X 7 V 2 X 5 V 3 X 1 V 4 X 2 V 10 X 1 V 3 X 12 V 13 X 1 V 3 X 1 V 51 X 1 V 3 X 1 V 6 X 4 V 16
X 2 V 26 X 1 V 3 X 1 V 18 X 3 V 24 X 1 V 9 X 1 V 1 X 2 V 7 X 3 V 1 X 4 V 6 X 1 V 1 X 1 V 8 X 6 V 10 X 2 V 3
X 12 V 50 3661-3634 1 V 7 X 4 V 29 X 37 V 2 X 1 V 1 X 1 V 5 X 1 V 24 X 1 V 1 X 1 V 12 3789-3762 1 V 10 X 2 V
5 X 1 V 1 X 1 V 7 X 1 V 10 X 2 3755-3737 1 3755-3745 1 V 2 X 32 V 12 3851 1 V 54 3906-4023 1 V 4 X 1 V 4
3916-4023 1 V 4 3921-4023 1 V 4 3926-4023 1 V 4 3931-4023 1 V 12 3904-4021 1 V 3 X 4 V 2 3953-3954 1 V 1
3953-3956 1 4018-3968 1 4018-3953-3968 1 4019-3968 1 4019-3953-3968 1 V 7 3953-3968 1 V 17 3986-4023 1 V 4 X
1 V 4 3996-4023 1 V 4 4001-4023 1 V 4 4006-4023 1 V 4 4011-4023 1 V 12 3984-4021 1 V 3 X 1 V 15 X 1 V 13 X
37 V 160 11520 1 11521 1 11522 1 11523 1 11524 1 11525 1 11526 1 11527 1 11528 1 11529 1 11530 1 11531 1
11532 1 11533 1 11534 1 11535 1 11536 1 11537 1 11538 1 11539 1 11540 1 11541 1 11542 1 11543 1 11544 1
11545 1 11546 1 11547 1 11548 1 11549 1 11550 1 11551 1 11552 1 11553 1 11554 1 11555 1 11556 1 11557 1 X 1
11559 1 X 5 11565 1 X 2 V 44 4316 1 V 98 I 2 V 232 X 1 V 4 X 2 V 7 X 1 V 1 X 1 V 4 X 2 V 41 X 1 V 4 X 2 V 33
X 1 V 4 X 2 V 7 X 1 V 1 X 1 V 4 X 2 V 15 X 1 V 57 X 1 V 4 X 2 V 67 X 2 V 32 X 3 V 26 X 6 V 86 X 2 5104 1
5105 1 5106 1 5107 1 5108 1 5109 1 X 2 V 640 X 1 V 28 X 3 V 89 X 7 V 22 X 9 V 24 X 9 V 20 X 12 V 13 X 1 V 3
X 1 V 2 X 12 V 52 I 2 V 40 X 2 V 10 X 6 V 10 X 6 V 11 I 5 V 10 X 6 V 89 X 7 V 43 X 5 V 70 X 10 V 31 X 1 V 12
X 4 V 12 X 4 V 1 X 3 V 42 X 2 V 5 X 11 V 44 X 4 V 26 X 6 V 11 X 3 V 62 X 2 V 65 X 1 V 29 X 2 V 11 X 6 V 10 X
6 V 14 X 2 V 46 X 2 V 12 X 20 V 77 X 1 V 166 X 8 V 60 X 3 V 15 X 3 V 51 1074 1 1076 1 1086 1 1089 1 1090 2
1098 1 1123 1 42571 1 7306 1 V 1 X 5 4304 1 4305 1 4306 1 4307 1 4308 1 4309 1 4310 1 4311 1 4312 1 4313 1
4314 1 4315 1 4316 1 4317 1 4318 1 4319 1 4320 1 4321 1 4322 1 4323 1 4324 1 4325 1 4326 1 4327 1 4328 1
4329 1 4330 1 4331 1 4332 1 4333 1 4334 1 4335 1 4336 1 4337 1 4338 1 4339 1 4340 1 4341 1 4342 1 4343 1
4344 1 4345 1 4346 1 X 2 4349 1 4350 1 4351 1 V 8 X 8 V 43 X 5 V 44 97 1 230 1 98 1 V 1 100 1 101 1 477 1
103 1 104 1 105 1 106 1 107 1 108 1 109 1 110 1 V 1 111 1 547 1 112 1 114 1 116 1 117 1 119 1 97 1 592 1 593
1 7426 1 98 1 100 1 101 1 601 1 603 1 604 1 103 1 V 1 107 1 109 1 331 1 111 1 596 1 7446 1 7447 1 112 1 116
1 117 1 7453 1 623 1 118 1 7461 1 946 1 947 1 948 1 966 1 967 1 105 1 114 1 117 1 118 1 946 1 947 1 961 1
966 1 967 1 V 13 1085 1 V 34 594 1 99 1 597 1 240 1 604 1 102 1 607 1 609 1 613 1 616 1 617 1 618 1 7547 1
669 1 621 1 7557 1 671 1 625 1 624 1 626 1 627 1 628 1 629 1 632 1 642 1 643 1 427 1 649 1 650 1 7452 1 651
1 652 1 122 1 656 1 657 1 658 1 952 1 V 64 7681 1 V 1 7683 1 V 1 7685 1 V 1 7687 1 V 1 7689 1 V 1 7691 1 V 1
7693 1 V 1 7695 1 V 1 7697 1 V 1 7699 1 V 1 7701 1 V 1 7703 1 V 1 7705 1 V 1 7707 1 V 1 7709 1 V 1 7711 1 V
1 7713 1 V 1 7715 1 V 1 7717 1 V 1 7719 1 V 1 7721 1 V 1 7723 1 V 1 7725 1 V 1 7727 1 V 1 7729 1 V 1 7731 1
V 1 7733 1 V 1 7735 1 V 1 7737 1 V 1 7739 1 V 1 7741 1 V 1 7743 1 V 1 7745 1 V 1 7747 1 V 1 7749 1 V 1 7751
1 V 1 7753 1 V 1 7755 1 V 1 7757 1 V 1 7759 1 V 1 7761 1 V 1 7763 1 V 1 7765 1 V 1 7767 1 V 1 7769 1 V 1
7771 1 V 1 7773 1 V 1 7775 1 V 1 7777 1 V 1 7779 1 V 1 7781 1 V 1 7783 1 V 1 7785 1 V 1 7787 1 V 1 7789 1 V
1 7791 1 V 1 7793 1 V 1 7795 1 V 1 7797 1 V 1 7799 1 V 1 7801 1 V 1 7803 1 V 1 7805 1 V 1 7807 1 V 1 7809 1
V 1 7811 1 V 1 7813 1 V 1 7815 1 V 1 7817 1 V 1 7819 1 V 1 7821 1 V 1 7823 1 V 1 7825 1 V 1 7827 1 V 1 7829
1 V 5 97-702 1 7777 1 V 2 223 1 V 1 7841 1 V 1 7843 1 V 1 7845 1 V 1 7847 1 V 1 7849 1 V 1 7851 1 V 1 7853 1
V 1 7855 1 V 1 7857 1 V 1 7859 1 V 1 7861 1 V 1 7863 1 V 1 7865 1 V 1 7867 1 V 1 7869 1 V 1 7871 1 V 1 7873
1 V 1 7875 1 V 1 7877 1 V 1 7879 1 V 1 7881 1 V 1 7883 1 V 1 7885 1 V 1 7887 1 V 1 7889 1 V 1 7891 1 V 1
7893 1 V 1 7895 1 V 1 7897 1 V 1 7899 1 V 1 7901 1 V 1 7903 1 V 1 7905 1 V 1 7907 1 V 1 7909 1 V 1 7911 1 V
1 7913 1 V 1 7915 1 V 1 7917 1 V 1 7919 1 V 1 7921 1 V 1 7923 1 V 1 7925 1 V 1 7927 1 V 1 7929 1 V 1 7931 1
V 1 7933 1 V 1 7935 1 V 9 7936 1 7937 1 7938 1 7939 1 7940 1 7941 1 7942 1 7943 1 V 6 X 2 7952 1 7953 1 7954
1 7955 1 7956 1 7957 1 X 2 V 8 7968 1 7969 1 7970 1 7971 1 7972 1 7973 1 7974 1 7975 1 V 8 7984 1 7985 1
7986 1 7987 1 7988 1 7989 1 7990 1 7991 1 V 6 X 2 8000 1 8001 1 8002 1 8003 1 8004 1 8005 1 X 2 V 8 X 1 8017
1 X 1 8019 1 X 1 8021 1 X 1 8023 1 V 8 8032 1 8033 1 8034 1 8035 1 8036 1 8037 1 8038 1 8039 1 V 1 940 1 V 1
941 1 V 1 942 1 V 1 943 1 V 1 972 1 V 1 973 1 V 1 974 1 X 2 7936-953 1 7937-953 1 7938-953 1 7939-953 1
7940-953 1 7941-953 1 7942-953 1 7943-953 1 7936-953 1 7937-953 1 7938-953 1 7939-953 1 7940-953 1 7941-953
1 7942-953 1 7943-953 1 7968-953 1 7969-953 1 7970-953 1 7971-953 1 7972-953 1 7973-953 1 7974-953 1
7975-953 1 7968-953 1 7969-953 1 7970-953 1 7971-953 1 7972-953 1 7973-953 1 7974-953 1 7975-953 1 8032-953
1 8033-953 1 8034-953 1 8035-953 1 8036-953 1 8037-953 1 8038-953 1 8039-953 1 8032-953 1 8033-953 1
8034-953 1 8035-953 1 8036-953 1 8037-953 1 8038-953 1 8039-953 1 V 2 8048-953 1 945-953 1 940-953 1 X 1 V 1
8118-953 1 8112 1 8113 1 8048 1 940 1 945-953 1 32-787 1 953 1 32-787 1 32-834 1 32-776-834 1 8052-953 1
951-953 1 942-953 1 X 1 V 1 8134-953 1 8050 1 941 1 8052 1 942 1 951-953 1 32-787-768 1 32-787-769 1
32-787-834 1 V 3 912 1 X 2 V 2 8144 1 8145 1 8054 1 943 1 X 1 32-788-768 1 32-788-769 1 32-788-834 1 V 3 944
1 V 4 8160 1 8161 1 8058 1 973 1 8165 1 32-776-768 1 32-776-769 1 96 1 X 2 8060-953 1 969-953 1 974-953 1 X
1 V 1 8182-953 1 8056 1 972 1 8060 1 974 1 969-953 1 32-769 1 32-788 1 X 1 32 11 I 1 V 2 X 2 V 1 8208 1 V 5
32-819 1 V 12 X 3 V 1 X 7 32 1 V 3 8242-8242 1 8242-8242-8242 1 V 1 8245-8245 1 8245-8245-8245 1 V 4 33-33 1
V 1 32-773 1 V 8 63-63 1 63-33 1 33-63 1 V 13 8242-8242-8242-8242 1 V 7 32 1 I 5 X 5 I 6 48 1 105 1 X 2 52 1
53 1 54 1 55 1 56 1 57 1 43 1 8722 1 61 1 40 1 41 1 110 1 48 1 49 1 50 1 51 1 52 1 53 1 54 1 55 1 56 1 57 1
43 1 8722 1 61 1 40 1 41 1 X 1 97 1 101 1 111 1 120 1 601 1 104 1 107 1 108 1 109 1 110 1 112 1 115 1 116 1
X 3 V 8 114-115 1 V 25 X 14 V 33 X 15 97-47-99 1 97-47-115 1 99 1 176-99 1 V 1 99-47-111 1 99-47-117 1 603 1
V 1 176-102 1 103 1 104 4 295 1 105 2 108 2 V 1 110 1 110-111 1 V 2 112 1 113 1 114 3 V 2 115-109 1
116-101-108 1 116-109 1 V 1 122 1 V 1 969 1 V 1 122 1 V 1 107 1 229 1 98 1 99 1 V 1 101 2 102 1 8526 1 109 1
111 1 1488 1 1489 1 1490 1 1491 1 105 1 V 1 102-97-120 1 960 1 947 2 960 1 8721 1 V 4 100 2 101 1 105 1 106
1 V 6 49-8260-55 1 49-8260-57 1 49-8260-49-48 1 49-8260-51 1 50-8260-51 1 49-8260-53 1 50-8260-53 1
51-8260-53 1 52-8260-53 1 49-8260-54 1 53-8260-54 1 49-8260-56 1 51-8260-56 1 53-8260-56 1 55-8260-56 1
49-8260 1 105 1 105-105 1 105-105-105 1 105-118 1 118 1 118-105 1 118-105-105 1 118-105-105-105 1 105-120 1
120 1 120-105 1 120-105-105 1 108 1 99 1 100 1 109 1 105 1 105-105 1 105-105-105 1 105-118 1 118 1 118-105 1
118-105-105 1 118-105-105-105 1 105-120 1 120 1 120-105 1 120-105-105 1 108 1 99 1 100 1 109 1 V 3 8580 1 V
5 48-8260-51 1 V 2 X 4 V 156 8747-8747 1 8747-8747-8747 1 V 1 8750-8750 1 8750-8750-8750 1 V 248 12296 1
12297 1 V 255 X 22 V 11 X 21 49 1 50 1 51 1 52 1 53 1 54 1 55 1 56 1 57 1 49-48 1 49-49 1 49-50 1 49-51 1
49-52 1 49-53 1 49-54 1 49-55 1 49-56 1 49-57 1 50-48 1 40-49-41 1 40-50-41 1 40-51-41 1 40-52-41 1 40-53-41
1 40-54-41 1 40-55-41 1 40-56-41 1 40-57-41 1 40-49-48-41 1 40-49-49-41 1 40-49-50-41 1 40-49-51-41 1
40-49-52-41 1 40-49-53-41 1 40-49-54-41 1 40-49-55-41 1 40-49-56-41 1 40-49-57-41 1 40-50-48-41 1 X 20
40-97-41 1 40-98-41 1 40-99-41 1 40-100-41 1 40-101-41 1 40-102-41 1 40-103-41 1 40-104-41 1 40-105-41 1
40-106-41 1 40-107-41 1 40-108-41 1 40-109-41 1 40-110-41 1 40-111-41 1 40-112-41 1 40-113-41 1 40-114-41 1
40-115-41 1 40-116-41 1 40-117-41 1 40-118-41 1 40-119-41 1 40-120-41 1 40-121-41 1 40-122-41 1 97 1 98 1 99
1 100 1 101 1 102 1 103 1 104 1 105 1 106 1 107 1 108 1 109 1 110 1 111 1 112 1 113 1 114 1 115 1 116 1 117
1 118 1 119 1 120 1 121 1 122 1 97 1 98 1 99 1 100 1 101 1 102 1 103 1 104 1 105 1 106 1 107 1 108 1 109 1
110 1 111 1 112 1 113 1 114 1 115 1 116 1 117 1 118 1 119 1 120 1 121 1 122 1 48 1 V 1313
8747-8747-8747-8747 1 V 103 58-58-61 1 61-61 1 61-61-61 1 V 101 10973-824 1 V 151 X 2 V 138 11312 1 11313 1
11314 1 11315 1 11316 1 11317 1 11318 1 11319 1 11320 1 11321 1 11322 1 11323 1 11324 1 11325 1 11326 1
11327 1 11328 1 11329 1 11330 1 11331 1 11332 1 11333 1 11334 1 11335 1 11336 1 11337 1 11338 1 11339 1
11340 1 11341 1 11342 1 11343 1 11344 1 11345 1 11346 1 11347 1 11348 1 11349 1 11350 1 11351 1 11352 1
11353 1 11354 1 11355 1 11356 1 11357 1 11358 1 11359 1 V 48 11361 1 V 1 619 1 7549 1 637 1 V 2 11368 1 V 1
11370 1 V 1 11372 1 V 1 593 1 625 1 592 1 594 1 V 1 11379 1 V 2 11382 1 V 6 106 1 118 1 575 1 576 1 11393 1
V 1 11395 1 V 1 11397 1 V 1 11399 1 V 1 11401 1 V 1 11403 1 V 1 11405 1 V 1 11407 1 V 1 11409 1 V 1 11411 1
V 1 11413 1 V 1 11415 1 V 1 11417 1 V 1 11419 1 V 1 11421 1 V 1 11423 1 V 1 11425 1 V 1 11427 1 V 1 11429 1
V 1 11431 1 V 1 11433 1 V 1 11435 1 V 1 11437 1 V 1 11439 1 V 1 11441 1 V 1 11443 1 V 1 11445 1 V 1 11447 1
V 1 11449 1 V 1 11451 1 V 1 11453 1 V 1 11455 1 V 1 11457 1 V 1 11459 1 V 1 11461 1 V 1 11463 1 V 1 11465 1
V 1 11467 1 V 1 11469 1 V 1 11471 1 V 1 11473 1 V 1 11475 1 V 1 11477 1 V 1 11479 1 V 1 11481 1 V 1 11483 1
V 1 11485 1 V 1 11487 1 V 1 11489 1 V 1 11491 1 V 8 11500 1 V 1 11502 1 V 4 11507 1 V 1 X 5 V 45 X 1 V 1 X 5
V 1 X 2 V 56 X 7 11617 1 V 1 X 14 V 24 X 9 V 7 X 1 V 7 X 1 V 7 X 1 V 7 X 1 V 7 X 1 V 7 X 1 V 7 X 1 V 7 X 1 V
126 X 34 V 26 X 1 V 4 27597 1 V 83 40863 1 X 12 19968 1 20008 1 20022 1 20031 1 20057 1 20101 1 20108 1
20128 1 20154 1 20799 1 20837 1 20843 1 20866 1 20886 1 20907 1 20960 1 20981 1 20992 1 21147 1 21241 1
21269 1 21274 1 21304 1 21313 1 21340 1 21353 1 21378 1 21430 1 21448 1 21475 1 22231 1 22303 1 22763 1
22786 1 22794 1 22805 1 22823 1 22899 1 23376 1 23424 1 23544 1 23567 1 23586 1 23608 1 23662 1 23665 1
24027 1 24037 1 24049 1 24062 1 24178 1 24186 1 24191 1 24308 1 24318 1 24331 1 24339 1 24400 1 24417 1
24435 1 24515 1 25096 1 25142 1 25163 1 25903 1 25908 1 25991 1 26007 1 26020 1 26041 1 26080 1 26085 1
26352 1 26376 1 26408 1 27424 1 27490 1 27513 1 27571 1 27595 1 27604 1 27611 1 27663 1 27668 1 27700 1
28779 1 29226 1 29238 1 29243 1 29247 1 29255 1 29273 1 29275 1 29356 1 29572 1 29577 1 29916 1 29926 1
29976 1 29983 1 29992 1 30000 1 30091 1 30098 1 30326 1 30333 1 30382 1 30399 1 30446 1 30683 1 30690 1
30707 1 31034 1 31160 1 31166 1 31348 1 31435 1 31481 1 31859 1 31992 1 32566 1 32593 1 32650 1 32701 1
32769 1 32780 1 32786 1 32819 1 32895 1 32905 1 33251 1 33258 1 33267 1 33276 1 33292 1 33307 1 33311 1
33390 1 33394 1 33400 1 34381 1 34411 1 34880 1 34892 1 34915 1 35198 1 35211 1 35282 1 35328 1 35895 1
35910 1 35925 1 35960 1 35997 1 36196 1 36208 1 36275 1 36523 1 36554 1 36763 1 36784 1 36789 1 37009 1
37193 1 37318 1 37324 1 37329 1 38263 1 38272 1 38428 1 38582 1 38585 1 38632 1 38737 1 38750 1 38754 1
38761 1 38859 1 38893 1 38899 1 38913 1 39080 1 39131 1 39135 1 39318 1 39321 1 39340 1 39592 1 39640 1
39647 1 39717 1 39727 1 39730 1 39740 1 39770 1 40165 1 40565 1 40575 1 40613 1 40635 1 40643 1 40653 1
40657 1 40697 1 40701 1 40718 1 40723 1 40736 1 40763 1 40778 1 40786 1 40845 1 40860 1 40864 1 X 42 32 1 V
1 46 1 V 51 12306 1 V 1 21313 1 21316 1 21317 1 V 5 X 1 V 86 X 2 V 2 32-12441 1 32-12442 1 V 2 12424-12426 1
V 95 12467-12488 1 X 5 V 43 X 1 4352 1 4353 1 4522 1 4354 1 4524 1 4525 1 4355 1 4356 1 4357 1 4528 1 4529 1
4530 1 4531 1 4532 1 4533 1 4378 1 4358 1 4359 1 4360 1 4385 1 4361 1 4362 1 4363 1 4364 1 4365 1 4366 1
4367 1 4368 1 4369 1 4370 1 4449 1 4450 1 4451 1 4452 1 4453 1 4454 1 4455 1 4456 1 4457 1 4458 1 4459 1
4460 1 4461 1 4462 1 4463 1 4464 1 4465 1 4466 1 4467 1 4468 1 4469 1 I 1 4372 1 4373 1 4551 1 4552 1 4556 1
4558 1 4563 1 4567 1 4569 1 4380 1 4573 1 4575 1 4381 1 4382 1 4384 1 4386 1 4387 1 4391 1 4393 1 4395 1
4396 1 4397 1 4398 1 4399 1 4402 1 4406 1 4416 1 4423 1 4428 1 4593 1 4594 1 4439 1 4440 1 4441 1 4484 1
4485 1 4488 1 4497 1 4498 1 4500 1 4510 1 4513 1 X 1 V 2 19968 1 20108 1 19977 1 22235 1 19978 1 20013 1
19979 1 30002 1 20057 1 19993 1 19969 1 22825 1 22320 1 20154 1 V 70 X 10 V 16 40-4352-41 1 40-4354-41 1
40-4355-41 1 40-4357-41 1 40-4358-41 1 40-4359-41 1 40-4361-41 1 40-4363-41 1 40-4364-41 1 40-4366-41 1
40-4367-41 1 40-4368-41 1 40-4369-41 1 40-4370-41 1 40-44032-41 1 40-45208-41 1 40-45796-41 1 40-46972-41 1
40-47560-41 1 40-48148-41 1 40-49324-41 1 40-50500-41 1 40-51088-41 1 40-52264-41 1 40-52852-41 1
40-53440-41 1 40-54028-41 1 40-54616-41 1 40-51452-41 1 40-50724-51204-41 1 40-50724-54980-41 1 X 1
40-19968-41 1 40-20108-41 1 40-19977-41 1 40-22235-41 1 40-20116-41 1 40-20845-41 1 40-19971-41 1
40-20843-41 1 40-20061-41 1 40-21313-41 1 40-26376-41 1 40-28779-41 1 40-27700-41 1 40-26408-41 1
40-37329-41 1 40-22303-41 1 40-26085-41 1 40-26666-41 1 40-26377-41 1 40-31038-41 1 40-21517-41 1
40-29305-41 1 40-36001-41 1 40-31069-41 1 40-21172-41 1 40-20195-41 1 40-21628-41 1 40-23398-41 1
40-30435-41 1 40-20225-41 1 40-36039-41 1 40-21332-41 1 40-31085-41 1 40-20241-41 1 40-33258-41 1
40-33267-41 1 21839 1 24188 1 25991 1 31631 1 V 8 112-116-101 1 50-49 1 50-50 1 50-51 1 50-52 1 50-53 1
50-54 1 50-55 1 50-56 1 50-57 1 51-48 1 51-49 1 51-50 1 51-51 1 51-52 1 51-53 1 4352 1 4354 1 4355 1 4357 1
4358 1 4359 1 4361 1 4363 1 4364 1 4366 1 4367 1 4368 1 4369 1 4370 1 44032 1 45208 1 45796 1 46972 1 47560
1 48148 1 49324 1 50500 1 51088 1 52264 1 52852 1 53440 1 54028 1 54616 1 52280-44256 1 51452-51032 1 50864
1 V 1 19968 1 20108 1 19977 1 22235 1 20116 1 20845 1 19971 1 20843 1 20061 1 21313 1 26376 1 28779 1 27700
1 26408 1 37329 1 22303 1 26085 1 26666 1 26377 1 31038 1 21517 1 29305 1 36001 1 31069 1 21172 1 31192 1
30007 1 22899 1 36969 1 20778 1 21360 1 27880 1 38917 1 20241 1 20889 1 27491 1 19978 1 20013 1 19979 1
24038 1 21491 1 21307 1 23447 1 23398 1 30435 1 20225 1 36039 1 21332 1 22812 1 51-54 1 51-55 1 51-56 1
51-57 1 52-48 1 52-49 1 52-50 1 52-51 1 52-52 1 52-53 1 52-54 1 52-55 1 52-56 1 52-57 1 53-48 1 49-26376 1
50-26376 1 51-26376 1 52-26376 1 53-26376 1 54-26376 1 55-26376 1 56-26376 1 57-26376 1 49-48-26376 1
49-49-26376 1 49-50-26376 1 104-103 1 101-114-103 1 101-118 1 108-116-100 1 12450 1 12452 1 12454 1 12456 1
12458 1 12459 1 12461 1 12463 1 12465 1 12467 1 12469 1 12471 1 12473 1 12475 1 12477 1 12479 1 12481 1
12484 1 12486 1 12488 1 12490 1 12491 1 12492 1 12493 1 12494 1 12495 1 12498 1 12501 1 12504 1 12507 1
12510 1 12511 1 12512 1 12513 1 12514 1 12516 1 12518 1 12520 1 12521 1 12522 1 12523 1 12524 1 12525 1
12527 1 12528 1 12529 1 12530 1 20196-21644 1 12450-12497-12540-12488 1 12450-12523-12501-12449 1
12450-12531-12506-12450 1 12450-12540-12523 1 12452-12491-12531-12464 1 12452-12531-12481 1
12454-12457-12531 1 12456-12473-12463-12540-12489 1 12456-12540-12459-12540 1 12458-12531-12473 1
12458-12540-12512 1 12459-12452-12522 1 12459-12521-12483-12488 1 12459-12525-12522-12540 1
12460-12525-12531 1 12460-12531-12510 1 12462-12460 1 12462-12491-12540 1 12461-12517-12522-12540 1
12462-12523-12480-12540 1 12461-12525 1 12461-12525-12464-12521-12512 1 12461-12525-12513-12540-12488-12523
1 12461-12525-12527-12483-12488 1 12464-12521-12512 1 12464-12521-12512-12488-12531 1
12463-12523-12476-12452-12525 1 12463-12525-12540-12493 1 12465-12540-12473 1 12467-12523-12490 1
12467-12540-12509 1 12469-12452-12463-12523 1 12469-12531-12481-12540-12512 1 12471-12522-12531-12464 1
12475-12531-12481 1 12475-12531-12488 1 12480-12540-12473 1 12487-12471 1 12489-12523 1 12488-12531 1
12490-12494 1 12494-12483-12488 1 12495-12452-12484 1 12497-12540-12475-12531-12488 1 12497-12540-12484 1
12496-12540-12524-12523 1 12500-12450-12473-12488-12523 1 12500-12463-12523 1 12500-12467 1 12499-12523 1
12501-12449-12521-12483-12489 1 12501-12451-12540-12488 1 12502-12483-12471-12455-12523 1 12501-12521-12531
1 12504-12463-12479-12540-12523 1 12506-12477 1 12506-12491-12498 1 12504-12523-12484 1 12506-12531-12473 1
12506-12540-12472 1 12505-12540-12479 1 12509-12452-12531-12488 1 12508-12523-12488 1 12507-12531 1
12509-12531-12489 1 12507-12540-12523 1 12507-12540-12531 1 12510-12452-12463-12525 1 12510-12452-12523 1
12510-12483-12495 1 12510-12523-12463 1 12510-12531-12471-12519-12531 1 12511-12463-12525-12531 1
12511-12522 1 12511-12522-12496-12540-12523 1 12513-12460 1 12513-12460-12488-12531 1
12513-12540-12488-12523 1 12516-12540-12489 1 12516-12540-12523 1 12518-12450-12531 1
12522-12483-12488-12523 1 12522-12521 1 12523-12500-12540 1 12523-12540-12502-12523 1 12524-12512 1
12524-12531-12488-12466-12531 1 12527-12483-12488 1 48-28857 1 49-28857 1 50-28857 1 51-28857 1 52-28857 1
53-28857 1 54-28857 1 55-28857 1 56-28857 1 57-28857 1 49-48-28857 1 49-49-28857 1 49-50-28857 1 49-51-28857
1 49-52-28857 1 49-53-28857 1 49-54-28857 1 49-55-28857 1 49-56-28857 1 49-57-28857 1 50-48-28857 1
50-49-28857 1 50-50-28857 1 50-51-28857 1 50-52-28857 1 104-112-97 1 100-97 1 97-117 1 98-97-114 1 111-118 1
112-99 1 100-109 1 100-109-50 1 100-109-51 1 105-117 1 24179-25104 1 26157-21644 1 22823-27491 1 26126-27835
1 26666-24335-20250-31038 1 112-97 1 110-97 1 956-97 1 109-97 1 107-97 1 107-98 1 109-98 1 103-98 1
99-97-108 1 107-99-97-108 1 112-102 1 110-102 1 956-102 1 956-103 1 109-103 1 107-103 1 104-122 1
107-104-122 1 109-104-122 1 103-104-122 1 116-104-122 1 956-108 1 109-108 1 100-108 1 107-108 1 102-109 1
110-109 1 956-109 1 109-109 1 99-109 1 107-109 1 109-109-50 1 99-109-50 1 109-50 1 107-109-50 1 109-109-51 1
99-109-51 1 109-51 1 107-109-51 1 109-8725-115 1 109-8725-115-50 1 112-97 1 107-112-97 1 109-112-97 1
103-112-97 1 114-97-100 1 114-97-100-8725-115 1 114-97-100-8725-115-50 1 112-115 1 110-115 1 956-115 1
109-115 1 112-118 1 110-118 1 956-118 1 109-118 1 107-118 1 109-118 1 112-119 1 110-119 1 956-119 1 109-119
1 107-119 1 109-119 1 107-969 1 109-969 1 X 1 98-113 1 99-99 1 99-100 1 99-8725-107-103 1 X 1 100-98 1
103-121 1 104-97 1 104-112 1 105-110 1 107-107 1 107-109 1 107-116 1 108-109 1 108-110 1 108-111-103 1
108-120 1 109-98 1 109-105-108 1 109-111-108 1 112-104 1 X 1 112-112-109 1 112-114 1 115-114 1 115-118 1
119-98 1 118-8725-109 1 97-8725-109 1 49-26085 1 50-26085 1 51-26085 1 52-26085 1 53-26085 1 54-26085 1
55-26085 1 56-26085 1 57-26085 1 49-48-26085 1 49-49-26085 1 49-50-26085 1 49-51-26085 1 49-52-26085 1
49-53-26085 1 49-54-26085 1 49-55-26085 1 49-56-26085 1 49-57-26085 1 50-48-26085 1 50-49-26085 1
50-50-26085 1 50-51-26085 1 50-52-26085 1 50-53-26085 1 50-54-26085 1 50-55-26085 1 50-56-26085 1
50-57-26085 1 51-48-26085 1 51-49-26085 1 103-97-108 1 V 28813 X 3 V 55 X 9 V 348 X 20 42561 1 V 1 42563 1 V
1 42565 1 V 1 42567 1 V 1 42569 1 V 1 42571 1 V 1 42573 1 V 1 42575 1 V 1 42577 1 V 1 42579 1 V 1 42581 1 V
1 42583 1 V 1 42585 1 V 1 42587 1 V 1 42589 1 V 1 42591 1 V 1 42593 1 V 1 42595 1 V 1 42597 1 V 1 42599 1 V
1 42601 1 V 1 42603 1 V 1 42605 1 V 19 42625 1 V 1 42627 1 V 1 42629 1 V 1 42631 1 V 1 42633 1 V 1 42635 1 V
1 42637 1 V 1 42639 1 V 1 42641 1 V 1 42643 1 V 1 42645 1 V 1 42647 1 V 1 42649 1 V 1 42651 1 V 1 1098 1
1100 1 V 90 X 8 V 34 42787 1 V 1 42789 1 V 1 42791 1 V 1 42793 1 V 1 42795 1 V 1 42797 1 V 1 42799 1 V 3
42803 1 V 1 42805 1 V 1 42807 1 V 1 42809 1 V 1 42811 1 V 1 42813 1 V 1 42815 1 V 1 42817 1 V 1 42819 1 V 1
42821 1 V 1 42823 1 V 1 42825 1 V 1 42827 1 V 1 42829 1 V 1 42831 1 V 1 42833 1 V 1 42835 1 V 1 42837 1 V 1
42839 1 V 1 42841 1 V 1 42843 1 V 1 42845 1 V 1 42847 1 V 1 42849 1 V 1 42851 1 V 1 42853 1 V 1 42855 1 V 1
42857 1 V 1 42859 1 V 1 42861 1 V 1 42863 1 V 1 42863 1 V 8 42874 1 V 1 42876 1 V 1 7545 1 42879 1 V 1 42881
1 V 1 42883 1 V 1 42885 1 V 1 42887 1 V 4 42892 1 V 1 613 1 V 2 42897 1 V 1 42899 1 V 3 42903 1 V 1 42905 1
V 1 42907 1 V 1 42909 1 V 1 42911 1 V 1 42913 1 V 1 42915 1 V 1 42917 1 V 1 42919 1 V 1 42921 1 V 1 614 1
604 1 609 1 620 1 618 1 V 1 670 1 647 1 669 1 43859 1 42933 1 V 1 42935 1 V 1 42937 1 V 1 42939 1 V 1 42941
1 V 1 42943 1 V 1 42945 1 V 1 42947 1 V 1 42900 1 642 1 7566 1 42952 1 V 1 42954 1 V 1 612 1 42957 1 V 1
42959 1 V 1 42961 1 V 1 42963 1 V 1 42965 1 V 1 42967 1 V 1 42969 1 V 1 42971 1 V 1 411 1 X 20 115 1 99 1
102 1 113 1 42998 1 V 2 295 1 339 1 V 51 X 3 V 10 X 6 V 56 X 8 V 70 X 8 V 12 X 6 V 116 X 11 V 30 X 3 V 78 X
1 V 11 X 4 V 33 X 1 V 55 X 9 V 14 X 2 V 10 X 2 V 103 X 24 V 28 X 10 V 6 X 2 V 6 X 2 V 6 X 9 V 7 X 1 V 7 X 1
V 44 42791 1 43831 1 619 1 43858 1 V 9 653 1 V 2 X 4 5024 1 5025 1 5026 1 5027 1 5028 1 5029 1 5030 1 5031 1
5032 1 5033 1 5034 1 5035 1 5036 1 5037 1 5038 1 5039 1 5040 1 5041 1 5042 1 5043 1 5044 1 5045 1 5046 1
5047 1 5048 1 5049 1 5050 1 5051 1 5052 1 5053 1 5054 1 5055 1 5056 1 5057 1 5058 1 5059 1 5060 1 5061 1
5062 1 5063 1 5064 1 5065 1 5066 1 5067 1 5068 1 5069 1 5070 1 5071 1 5072 1 5073 1 5074 1 5075 1 5076 1
5077 1 5078 1 5079 1 5080 1 5081 1 5082 1 5083 1 5084 1 5085 1 5086 1 5087 1 5088 1 5089 1 5090 1 5091 1
5092 1 5093 1 5094 1 5095 1 5096 1 5097 1 5098 1 5099 1 5100 1 5101 1 5102 1 5103 1 V 46 X 2 V 10 X 6 V
11172 X 12 V 23 X 4 V 49 X 8452 35912 1 26356 1 36554 1 36040 1 28369 1 20018 1 21477 1 40860 2 22865 1
37329 1 21895 1 22856 1 25078 1 30313 1 32645 1 34367 1 34746 1 35064 1 37007 1 27138 1 27931 1 28889 1
29662 1 33853 1 37226 1 39409 1 20098 1 21365 1 27396 1 29211 1 34349 1 40478 1 23888 1 28651 1 34253 1
35172 1 25289 1 33240 1 34847 1 24266 1 26391 1 28010 1 29436 1 37070 1 20358 1 20919 1 21214 1 25796 1
27347 1 29200 1 30439 1 32769 1 34310 1 34396 1 36335 1 38706 1 39791 1 40442 1 30860 1 31103 1 32160 1
33737 1 37636 1 40575 1 35542 1 22751 1 24324 1 31840 1 32894 1 29282 1 30922 1 36034 1 38647 1 22744 1
23650 1 27155 1 28122 1 28431 1 32047 1 32311 1 38475 1 21202 1 32907 1 20956 1 20940 1 31260 1 32190 1
33777 1 38517 1 35712 1 25295 1 27138 1 35582 1 20025 1 23527 1 24594 1 29575 1 30064 1 21271 1 30971 1
20415 1 24489 1 19981 1 27852 1 25976 1 32034 1 21443 1 22622 1 30465 1 33865 1 35498 1 27578 1 36784 1
27784 1 25342 1 33509 1 25504 1 30053 1 20142 1 20841 1 20937 1 26753 1 31975 1 33391 1 35538 1 37327 1
21237 1 21570 1 22899 1 24300 1 26053 1 28670 1 31018 1 38317 1 39530 1 40599 1 40654 1 21147 1 26310 1
27511 1 36706 1 24180 1 24976 1 25088 1 25754 1 28451 1 29001 1 29833 1 31178 1 32244 1 32879 1 36646 1
34030 1 36899 1 37706 1 21015 1 21155 1 21693 1 28872 1 35010 1 35498 1 24265 1 24565 1 25467 1 27566 1
31806 1 29557 1 20196 1 22265 1 23527 1 23994 1 24604 1 29618 1 29801 1 32666 1 32838 1 37428 1 38646 1
38728 1 38936 1 20363 1 31150 1 37300 1 38584 1 24801 1 20102 1 20698 1 23534 1 23615 1 26009 1 27138 1
29134 1 30274 1 34044 1 36988 1 40845 1 26248 1 38446 1 21129 1 26491 1 26611 1 27969 1 28316 1 29705 1
30041 1 30827 1 32016 1 39006 1 20845 1 25134 1 38520 1 20523 1 23833 1 28138 1 36650 1 24459 1 24900 1
26647 1 29575 1 38534 1 21033 1 21519 1 23653 1 26131 1 26446 1 26792 1 27877 1 29702 1 30178 1 32633 1
35023 1 35041 1 37324 1 38626 1 21311 1 28346 1 21533 1 29136 1 29848 1 34298 1 38563 1 40023 1 40607 1
26519 1 28107 1 33256 1 31435 1 31520 1 31890 1 29376 1 28825 1 35672 1 20160 1 33590 1 21050 1 20999 1
24230 1 25299 1 31958 1 23429 1 27934 1 26292 1 36667 1 34892 1 38477 1 35211 1 24275 1 20800 1 21952 1 V 2
22618 1 V 1 26228 1 V 2 20958 1 29482 1 30410 1 31036 1 31070 1 31077 1 31119 1 38742 1 31934 1 32701 1 V 1
34322 1 V 1 35576 1 V 2 36920 1 37117 1 V 3 39151 1 39164 1 39208 1 40372 1 37086 1 38583 1 20398 1 20711 1
20813 1 21193 1 21220 1 21329 1 21917 1 22022 1 22120 1 22592 1 22696 1 23652 1 23662 1 24724 1 24936 1
24974 1 25074 1 25935 1 26082 1 26257 1 26757 1 28023 1 28186 1 28450 1 29038 1 29227 1 29730 1 30865 1
31038 1 31049 1 31048 1 31056 1 31062 1 31069 1 31117 1 31118 1 31296 1 31361 1 31680 1 32244 1 32265 1
32321 1 32626 1 32773 1 33261 1 33401 2 33879 1 35088 1 35222 1 35585 1 35641 1 36051 1 36104 1 36790 1
36920 1 38627 1 38911 1 38971 1 24693 1 148206 1 33304 1 X 2 20006 1 20917 1 20840 1 20352 1 20805 1 20864 1
21191 1 21242 1 21917 1 21845 1 21913 1 21986 1 22618 1 22707 1 22852 1 22868 1 23138 1 23336 1 24274 1
24281 1 24425 1 24493 1 24792 1 24910 1 24840 1 24974 1 24928 1 25074 1 25140 1 25540 1 25628 1 25682 1
25942 1 26228 1 26391 1 26395 1 26454 1 27513 1 27578 1 27969 1 28379 1 28363 1 28450 1 28702 1 29038 1
30631 1 29237 1 29359 1 29482 1 29809 1 29958 1 30011 1 30237 1 30239 1 30410 1 30427 1 30452 1 30538 1
30528 1 30924 1 31409 1 31680 1 31867 1 32091 1 32244 1 32574 1 32773 1 33618 1 33775 1 34681 1 35137 1
35206 1 35222 1 35519 1 35576 1 35531 1 35585 1 35582 1 35565 1 35641 1 35722 1 36104 1 36664 1 36978 1
37273 1 37494 1 38524 1 38627 1 38742 1 38875 1 38911 1 38923 1 38971 1 39698 1 40860 1 141386 1 141380 1
144341 1 15261 1 16408 1 16441 1 152137 1 154832 1 163539 1 40771 1 40846 1 X 38 102-102 1 102-105 1 102-108
1 102-102-105 1 102-102-108 1 115-116 2 X 12 1396-1398 1 1396-1381 1 1396-1387 1 1406-1398 1 1396-1389 1 X 5
1497-1460 1 V 1 1522-1463 1 1506 1 1488 1 1491 1 1492 1 1499 1 1500 1 1501 1 1512 1 1514 1 43 1 1513-1473 1
1513-1474 1 1513-1468-1473 1 1513-1468-1474 1 1488-1463 1 1488-1464 1 1488-1468 1 1489-1468 1 1490-1468 1
1491-1468 1 1492-1468 1 1493-1468 1 1494-1468 1 X 1 1496-1468 1 1497-1468 1 1498-1468 1 1499-1468 1
1500-1468 1 X 1 1502-1468 1 X 1 1504-1468 1 1505-1468 1 X 1 1507-1468 1 1508-1468 1 X 1 1510-1468 1
1511-1468 1 1512-1468 1 1513-1468 1 1514-1468 1 1493-1465 1 1489-1471 1 1499-1471 1 1508-1471 1 1488-1500 1
1649 2 1659 4 1662 4 1664 4 1658 4 1663 4 1657 4 1700 4 1702 4 1668 4 1667 4 1670 4 1671 4 1677 2 1676 2
1678 2 1672 2 1688 2 1681 2 1705 4 1711 4 1715 4 1713 4 1722 2 1723 4 1728 2 1729 4 1726 4 1746 2 1747 2 V
33 1709 4 1735 2 1734 2 1736 2 1735-1652 1 1739 2 1733 2 1737 2 1744 4 1609 2 1574-1575 2 1574-1749 2
1574-1608 2 1574-1735 2 1574-1734 2 1574-1736 2 1574-1744 3 1574-1609 3 1740 4 1574-1580 1 1574-1581 1
1574-1605 1 1574-1609 1 1574-1610 1 1576-1580 1 1576-1581 1 1576-1582 1 1576-1605 1 1576-1609 1 1576-1610 1
1578-1580 1 1578-1581 1 1578-1582 1 1578-1605 1 1578-1609 1 1578-1610 1 1579-1580 1 1579-1605 1 1579-1609 1
1579-1610 1 1580-1581 1 1580-1605 1 1581-1580 1 1581-1605 1 1582-1580 1 1582-1581 1 1582-1605 1 1587-1580 1
1587-1581 1 1587-1582 1 1587-1605 1 1589-1581 1 1589-1605 1 1590-1580 1 1590-1581 1 1590-1582 1 1590-1605 1
1591-1581 1 1591-1605 1 1592-1605 1 1593-1580 1 1593-1605 1 1594-1580 1 1594-1605 1 1601-1580 1 1601-1581 1
1601-1582 1 1601-1605 1 1601-1609 1 1601-1610 1 1602-1581 1 1602-1605 1 1602-1609 1 1602-1610 1 1603-1575 1
1603-1580 1 1603-1581 1 1603-1582 1 1603-1604 1 1603-1605 1 1603-1609 1 1603-1610 1 1604-1580 1 1604-1581 1
1604-1582 1 1604-1605 1 1604-1609 1 1604-1610 1 1605-1580 1 1605-1581 1 1605-1582 1 1605-1605 1 1605-1609 1
1605-1610 1 1606-1580 1 1606-1581 1 1606-1582 1 1606-1605 1 1606-1609 1 1606-1610 1 1607-1580 1 1607-1605 1
1607-1609 1 1607-1610 1 1610-1580 1 1610-1581 1 1610-1582 1 1610-1605 1 1610-1609 1 1610-1610 1 1584-1648 1
1585-1648 1 1609-1648 1 32-1612-1617 1 32-1613-1617 1 32-1614-1617 1 32-1615-1617 1 32-1616-1617 1
32-1617-1648 1 1574-1585 1 1574-1586 1 1574-1605 1 1574-1606 1 1574-1609 1 1574-1610 1 1576-1585 1 1576-1586
1 1576-1605 1 1576-1606 1 1576-1609 1 1576-1610 1 1578-1585 1 1578-1586 1 1578-1605 1 1578-1606 1 1578-1609
1 1578-1610 1 1579-1585 1 1579-1586 1 1579-1605 1 1579-1606 1 1579-1609 1 1579-1610 1 1601-1609 1 1601-1610
1 1602-1609 1 1602-1610 1 1603-1575 1 1603-1604 1 1603-1605 1 1603-1609 1 1603-1610 1 1604-1605 1 1604-1609
1 1604-1610 1 1605-1575 1 1605-1605 1 1606-1585 1 1606-1586 1 1606-1605 1 1606-1606 1 1606-1609 1 1606-1610
1 1609-1648 1 1610-1585 1 1610-1586 1 1610-1605 1 1610-1606 1 1610-1609 1 1610-1610 1 1574-1580 1 1574-1581
1 1574-1582 1 1574-1605 1 1574-1607 1 1576-1580 1 1576-1581 1 1576-1582 1 1576-1605 1 1576-1607 1 1578-1580
1 1578-1581 1 1578-1582 1 1578-1605 1 1578-1607 1 1579-1605 1 1580-1581 1 1580-1605 1 1581-1580 1 1581-1605
1 1582-1580 1 1582-1605 1 1587-1580 1 1587-1581 1 1587-1582 1 1587-1605 1 1589-1581 1 1589-1582 1 1589-1605
1 1590-1580 1 1590-1581 1 1590-1582 1 1590-1605 1 1591-1581 1 1592-1605 1 1593-1580 1 1593-1605 1 1594-1580
1 1594-1605 1 1601-1580 1 1601-1581 1 1601-1582 1 1601-1605 1 1602-1581 1 1602-1605 1 1603-1580 1 1603-1581
1 1603-1582 1 1603-1604 1 1603-1605 1 1604-1580 1 1604-1581 1 1604-1582 1 1604-1605 1 1604-1607 1 1605-1580
1 1605-1581 1 1605-1582 1 1605-1605 1 1606-1580 1 1606-1581 1 1606-1582 1 1606-1605 1 1606-1607 1 1607-1580
1 1607-1605 1 1607-1648 1 1610-1580 1 1610-1581 1 1610-1582 1 1610-1605 1 1610-1607 1 1574-1605 1 1574-1607
1 1576-1605 1 1576-1607 1 1578-1605 1 1578-1607 1 1579-1605 1 1579-1607 1 1587-1605 1 1587-1607 1 1588-1605
1 1588-1607 1 1603-1604 1 1603-1605 1 1604-1605 1 1606-1605 1 1606-1607 1 1610-1605 1 1610-1607 1
1600-1614-1617 1 1600-1615-1617 1 1600-1616-1617 1 1591-1609 1 1591-1610 1 1593-1609 1 1593-1610 1 1594-1609
1 1594-1610 1 1587-1609 1 1587-1610 1 1588-1609 1 1588-1610 1 1581-1609 1 1581-1610 1 1580-1609 1 1580-1610
1 1582-1609 1 1582-1610 1 1589-1609 1 1589-1610 1 1590-1609 1 1590-1610 1 1588-1580 1 1588-1581 1 1588-1582
1 1588-1605 1 1588-1585 1 1587-1585 1 1589-1585 1 1590-1585 1 1591-1609 1 1591-1610 1 1593-1609 1 1593-1610
1 1594-1609 1 1594-1610 1 1587-1609 1 1587-1610 1 1588-1609 1 1588-1610 1 1581-1609 1 1581-1610 1 1580-1609
1 1580-1610 1 1582-1609 1 1582-1610 1 1589-1609 1 1589-1610 1 1590-1609 1 1590-1610 1 1588-1580 1 1588-1581
1 1588-1582 1 1588-1605 1 1588-1585 1 1587-1585 1 1589-1585 1 1590-1585 1 1588-1580 1 1588-1581 1 1588-1582
1 1588-1605 1 1587-1607 1 1588-1607 1 1591-1605 1 1587-1580 1 1587-1581 1 1587-1582 1 1588-1580 1 1588-1581
1 1588-1582 1 1591-1605 1 1592-1605 1 1575-1611 2 V 18 1578-1580-1605 1 1578-1581-1580 2 1578-1581-1605 1
1578-1582-1605 1 1578-1605-1580 1 1578-1605-1581 1 1578-1605-1582 1 1580-1605-1581 2 1581-1605-1610 1
1581-1605-1609 1 1587-1581-1580 1 1587-1580-1581 1 1587-1580-1609 1 1587-1605-1581 2 1587-1605-1580 1
1587-1605-1605 2 1589-1581-1581 2 1589-1605-1605 1 1588-1581-1605 2 1588-1580-1610 1 1588-1605-1582 2
1588-1605-1605 2 1590-1581-1609 1 1590-1582-1605 2 1591-1605-1581 2 1591-1605-1605 1 1591-1605-1610 1
1593-1580-1605 1 1593-1605-1605 2 1593-1605-1609 1 1594-1605-1605 1 1594-1605-1610 1 1594-1605-1609 1
1601-1582-1605 2 1602-1605-1581 1 1602-1605-1605 1 1604-1581-1605 1 1604-1581-1610 1 1604-1581-1609 1
1604-1580-1580 2 1604-1582-1605 2 1604-1605-1581 2 1605-1581-1580 1 1605-1581-1605 1 1605-1581-1610 1
1605-1580-1581 1 1605-1580-1605 1 1605-1582-1580 1 1605-1582-1605 1 V 2 1605-1580-1582 1 1607-1605-1580 1
1607-1605-1605 1 1606-1581-1605 1 1606-1581-1609 1 1606-1580-1605 2 1606-1580-1609 1 1606-1605-1610 1
1606-1605-1609 1 1610-1605-1605 2 1576-1582-1610 1 1578-1580-1610 1 1578-1580-1609 1 1578-1582-1610 1
1578-1582-1609 1 1578-1605-1610 1 1578-1605-1609 1 1580-1605-1610 1 1580-1581-1609 1 1580-1605-1609 1
1587-1582-1609 1 1589-1581-1610 1 1588-1581-1610 1 1590-1581-1610 1 1604-1580-1610 1 1604-1605-1610 1
1610-1581-1610 1 1610-1580-1610 1 1610-1605-1610 1 1605-1605-1610 1 1602-1605-1610 1 1606-1581-1610 1
1602-1605-1581 1 1604-1581-1605 1 1593-1605-1610 1 1603-1605-1610 1 1606-1580-1581 1 1605-1582-1610 1
1604-1580-1605 1 1603-1605-1605 1 1604-1580-1605 1 1606-1580-1581 1 1580-1581-1610 1 1581-1580-1610 1
1605-1580-1610 1 1601-1605-1610 1 1576-1581-1610 1 1603-1605-1605 1 1593-1580-1605 1 1589-1605-1605 1
1587-1582-1610 1 1606-1580-1610 1 V 8 X 32 1589-1604-1746 1 1602-1604-1746 1 1575-1604-1604-1607 1
1575-1603-1576-1585 1 1605-1581-1605-1583 1 1589-1604-1593-1605 1 1585-1587-1608-1604 1 1593-1604-1610-1607
1 1608-1587-1604-1605 1 1589-1604-1609 1
1589-1604-1609-32-1575-1604-1604-1607-32-1593-1604-1610-1607-32-1608-1587-1604-1605 1
1580-1604-32-1580-1604-1575-1604-1607 1 1585-1740-1575-1604 1 V 3 I 16 44 1 12289 1 X 1 58 1 59 1 33 1 63 1
12310 1 12311 1 X 7 V 16 X 1 8212 1 8211 1 95 2 40 1 41 1 123 1 125 1 12308 1 12309 1 12304 1 12305 1 12298
1 12299 1 12296 1 12297 1 12300 1 12301 1 12302 1 12303 1 V 2 91 1 93 1 32-773 4 95 3 44 1 12289 1 X 2 59 1
58 1 63 1 33 1 8212 1 40 1 41 1 123 1 125 1 12308 1 12309 1 35 1 38 1 42 1 43 1 45 1 60 1 62 1 61 1 X 1 92 1
36 1 37 1 64 1 X 4 32-1611 1 1600-1611 1 32-1612 1 V 1 32-1613 1 X 1 32-1614 1 1600-1614 1 32-1615 1
1600-1615 1 32-1616 1 1600-1616 1 32-1617 1 1600-1617 1 32-1618 1 1600-1618 1 1569 1 1570 2 1571 2 1572 2
1573 2 1574 4 1575 2 1576 4 1577 2 1578 4 1579 4 1580 4 1581 4 1582 4 1583 2 1584 2 1585 2 1586 2 1587 4
1588 4 1589 4 1590 4 1591 4 1592 4 1593 4 1594 4 1601 4 1602 4 1603 4 1604 4 1605 4 1606 4 1607 4 1608 2
1609 2 1610 4 1604-1570 2 1604-1571 2 1604-1573 2 1604-1575 2 X 2 I 1 X 1 33 1 34 1 35 1 36 1 37 1 38 1 39 1
40 1 41 1 42 1 43 1 44 1 45 1 46 1 47 1 48 1 49 1 50 1 51 1 52 1 53 1 54 1 55 1 56 1 57 1 58 1 59 1 60 1 61
1 62 1 63 1 64 1 97 1 98 1 99 1 100 1 101 1 102 1 103 1 104 1 105 1 106 1 107 1 108 1 109 1 110 1 111 1 112
1 113 1 114 1 115 1 116 1 117 1 118 1 119 1 120 1 121 1 122 1 91 1 92 1 93 1 94 1 95 1 96 1 97 1 98 1 99 1
100 1 101 1 102 1 103 1 104 1 105 1 106 1 107 1 108 1 109 1 110 1 111 1 112 1 113 1 114 1 115 1 116 1 117 1
118 1 119 1 120 1 121 1 122 1 123 1 124 1 125 1 126 1 10629 1 10630 1 46 1 12300 1 12301 1 12289 1 12539 1
12530 1 12449 1 12451 1 12453 1 12455 1 12457 1 12515 1 12517 1 12519 1 12483 1 12540 1 12450 1 12452 1
12454 1 12456 1 12458 1 12459 1 12461 1 12463 1 12465 1 12467 1 12469 1 12471 1 12473 1 12475 1 12477 1
12479 1 12481 1 12484 1 12486 1 12488 1 12490 1 12491 1 12492 1 12493 1 12494 1 12495 1 12498 1 12501 1
12504 1 12507 1 12510 1 12511 1 12512 1 12513 1 12514 1 12516 1 12518 1 12520 1 12521 1 12522 1 12523 1
12524 1 12525 1 12527 1 12531 1 12441 1 12442 1 I 1 4352 1 4353 1 4522 1 4354 1 4524 1 4525 1 4355 1 4356 1
4357 1 4528 1 4529 1 4530 1 4531 1 4532 1 4533 1 4378 1 4358 1 4359 1 4360 1 4385 1 4361 1 4362 1 4363 1
4364 1 4365 1 4366 1 4367 1 4368 1 4369 1 4370 1 X 3 4449 1 4450 1 4451 1 4452 1 4453 1 4454 1 X 2 4455 1
4456 1 4457 1 4458 1 4459 1 4460 1 X 2 4461 1 4462 1 4463 1 4464 1 4465 1 4466 1 X 2 4467 1 4468 1 4469 1 X
3 162 1 163 1 172 1 32-772 1 166 1 165 1 8361 1 X 1 9474 1 8592 1 8593 1 8594 1 8595 1 9632 1 9675 1 X 17 V
12 X 1 V 26 X 1 V 19 X 1 V 2 X 1 V 15 X 2 V 14 X 34 V 123 X 5 V 3 X 4 V 45 X 3 V 88 X 1 V 13 X 3 V 1 X 47 V
46 X 130 V 29 X 3 V 49 X 15 V 28 X 4 V 36 X 9 V 30 X 5 V 43 X 5 V 30 X 1 V 37 X 4 V 14 X 42 66600 1 66601 1
66602 1 66603 1 66604 1 66605 1 66606 1 66607 1 66608 1 66609 1 66610 1 66611 1 66612 1 66613 1 66614 1
66615 1 66616 1 66617 1 66618 1 66619 1 66620 1 66621 1 66622 1 66623 1 66624 1 66625 1 66626 1 66627 1
66628 1 66629 1 66630 1 66631 1 66632 1 66633 1 66634 1 66635 1 66636 1 66637 1 66638 1 66639 1 V 118 X 2 V
10 X 6 66776 1 66777 1 66778 1 66779 1 66780 1 66781 1 66782 1 66783 1 66784 1 66785 1 66786 1 66787 1 66788
1 66789 1 66790 1 66791 1 66792 1 66793 1 66794 1 66795 1 66796 1 66797 1 66798 1 66799 1 66800 1 66801 1
66802 1 66803 1 66804 1 66805 1 66806 1 66807 1 66808 1 66809 1 66810 1 66811 1 X 4 V 36 X 4 V 40 X 8 V 52 X
11 V 1 66967 1 66968 1 66969 1 66970 1 66971 1 66972 1 66973 1 66974 1 66975 1 66976 1 66977 1 X 1 66979 1
66980 1 66981 1 66982 1 66983 1 66984 1 66985 1 66986 1 66987 1 66988 1 66989 1 66990 1 66991 1 66992 1
66993 1 X 1 66995 1 66996 1 66997 1 66998 1 66999 1 67000 1 67001 1 X 1 67003 1 67004 1 X 1 V 11 X 1 V 15 X
1 V 7 X 1 V 2 X 3 V 52 X 12 V 311 X 9 V 22 X 10 V 8 X 24 V 1 720 1 721 1 230 1 665 1 595 1 X 1 675 1 43878 1
677 1 676 1 598 1 599 1 7569 1 600 1 606 1 681 1 612 1 610 1 608 1 667 1 295 1 668 1 615 1 644 1 682 1 683 1
620 1 122628 1 42894 1 622 1 122629 1 654 1 122630 1 248 1 630 1 631 1 113 1 634 1 122632 1 637 1 638 1 640
1 680 1 678 1 43879 1 679 1 648 1 11377 1 X 1 655 1 673 1 674 1 664 1 448 1 449 1 450 1 122634 1 122654 1 X
69 V 6 X 2 V 1 X 1 V 44 X 1 V 2 X 3 V 1 X 2 V 23 X 1 V 72 X 8 V 9 X 48 V 19 X 1 V 2 X 5 V 33 X 3 V 27 X 5 V
27 X 38 V 56 X 4 V 20 X 2 V 50 X 1 V 2 X 5 V 8 X 1 V 3 X 1 V 29 X 2 V 3 X 4 V 10 X 7 V 9 X 7 V 64 X 32 V 39
X 4 V 12 X 9 V 54 X 3 V 29 X 2 V 27 X 5 V 26 X 7 V 4 X 12 V 7 X 80 V 73 X 55 68800 1 68801 1 68802 1 68803 1
68804 1 68805 1 68806 1 68807 1 68808 1 68809 1 68810 1 68811 1 68812 1 68813 1 68814 1 68815 1 68816 1
68817 1 68818 1 68819 1 68820 1 68821 1 68822 1 68823 1 68824 1 68825 1 68826 1 68827 1 68828 1 68829 1
68830 1 68831 1 68832 1 68833 1 68834 1 68835 1 68836 1 68837 1 68838 1 68839 1 68840 1 68841 1 68842 1
68843 1 68844 1 68845 1 68846 1 68847 1 68848 1 68849 1 68850 1 X 13 V 51 X 7 V 46 X 8 V 10 X 6 V 16 68976 1
68977 1 68978 1 68979 1 68980 1 68981 1 68982 1 68983 1 68984 1 68985 1 68986 1 68987 1 68988 1 68989 1
68990 1 68991 1 68992 1 68993 1 68994 1 68995 1 68996 1 68997 1 X 3 V 29 X 8 V 2 X 208 V 31 X 1 V 42 X 1 V 3
X 2 V 2 X 16 V 6 X 8 V 9 X 33 V 46 X 8 V 42 X 22 V 26 X 38 V 28 X 20 V 23 X 9 V 78 X 4 V 36 X 9 V 62 X 1 V 5
X 13 V 25 X 7 V 10 X 6 V 53 X 1 V 18 X 8 V 39 X 9 V 96 X 1 V 20 X 11 V 18 X 1 V 47 X 62 V 7 X 1 V 1 X 1 V 4
X 1 V 15 X 1 V 11 X 6 V 59 X 5 V 10 X 6 V 4 X 1 V 8 X 2 V 2 X 2 V 22 X 1 V 7 X 1 V 2 X 1 V 5 X 1 V 10 X 2 V
2 X 2 V 3 X 2 V 1 X 6 V 1 X 5 V 7 X 2 V 7 X 3 V 5 X 11 V 10 X 1 V 1 X 2 V 1 X 1 V 38 X 1 V 10 X 1 V 1 X 2 V
1 X 1 V 4 X 1 V 10 X 1 V 2 X 8 V 2 X 29 V 92 X 1 V 5 X 30 V 72 X 8 V 10 X 166 V 54 X 2 V 38 X 34 V 69 X 11 V
10 X 6 V 13 X 19 V 58 X 6 V 10 X 6 V 20 X 28 V 27 X 2 V 15 X 4 V 23 X 185 V 60 X 100 71872 1 71873 1 71874 1
71875 1 71876 1 71877 1 71878 1 71879 1 71880 1 71881 1 71882 1 71883 1 71884 1 71885 1 71886 1 71887 1
71888 1 71889 1 71890 1 71891 1 71892 1 71893 1 71894 1 71895 1 71896 1 71897 1 71898 1 71899 1 71900 1
71901 1 71902 1 71903 1 V 51 X 12 V 8 X 2 V 1 X 2 V 8 X 1 V 2 X 1 V 30 X 1 V 2 X 2 V 12 X 9 V 10 X 70 V 8 X
2 V 46 X 2 V 11 X 27 V 72 X 8 V 83 X 13 V 73 X 7 V 10 X 86 V 8 X 88 V 34 X 14 V 10 X 6 V 9 X 1 V 45 X 1 V 14
X 10 V 29 X 3 V 32 X 2 V 22 X 1 V 14 X 73 V 7 X 1 V 2 X 1 V 44 X 3 V 1 X 1 V 2 X 1 V 9 X 8 V 10 X 6 V 6 X 1
V 2 X 1 V 37 X 1 V 2 X 1 V 6 X 7 V 10 X 6 V 44 X 4 V 10 X 246 V 25 X 7 V 17 X 1 V 41 X 3 V 29 X 85 V 1 X 15
V 50 X 13 V 923 X 102 V 111 X 1 V 5 X 11 V 196 X 2636 V 99 X 13 V 1072 X 16 V 22 X 10 V 3995 X 5 V 583 X
6841 V 58 X 1734 V 569 X 7 V 31 X 1 V 10 X 4 V 81 X 1 V 10 X 6 V 30 X 2 V 6 X 10 V 70 X 10 V 10 X 1 V 7 X 1
V 21 X 5 V 19 X 432 V 58 X 198 93792 1 93793 1 93794 1 93795 1 93796 1 93797 1 93798 1 93799 1 93800 1 93801
1 93802 1 93803 1 93804 1 93805 1 93806 1 93807 1 93808 1 93809 1 93810 1 93811 1 93812 1 93813 1 93814 1
93815 1 93816 1 93817 1 93818 1 93819 1 93820 1 93821 1 93822 1 93823 1 V 59 X 5 93883 1 93884 1 93885 1
93886 1 93887 1 93888 1 93889 1 93890 1 93891 1 93892 1 93893 1 93894 1 93895 1 93896 1 93897 1 93898 1
93899 1 93900 1 93901 1 93902 1 93903 1 93904 1 93905 1 93906 1 93907 1 X 2 V 25 X 44 V 75 X 4 V 57 X 7 V 17
X 64 V 5 X 11 V 7 X 9 V 7382 X 41 V 32 X 97 V 115 X 8701 V 4 X 1 V 7 X 1 V 2 X 1 V 291 X 15 V 1 X 29 V 3 X 2
V 1 X 14 V 4 X 8 V 396 X 2308 V 107 X 5 V 13 X 3 V 9 X 7 V 10 X 2 V 4 I 4 X 3932 V 214 97 1 98 1 99 1 100 1
101 1 102 1 103 1 104 1 105 1 106 1 107 1 108 1 109 1 110 1 111 1 112 1 113 1 114 1 115 1 116 1 117 1 118 1
119 1 120 1 121 1 122 1 48 1 49 1 50 1 51 1 52 1 53 1 54 1 55 1 56 1 57 1 V 3 X 3 V 436 X 6 V 23 X 15 V 17 X
15 V 46 X 2 V 23 X 9 V 116 X 60 V 246 X 10 V 39 X 2 V 53 119127-119141 1 119128-119141 1
119128-119141-119150 1 119128-119141-119151 1 119128-119141-119152 1 119128-119141-119153 1
119128-119141-119154 1 V 14 I 8 V 64 119225-119141 1 119226-119141 1 119225-119141-119150 1
119226-119141-119150 1 119225-119141-119151 1 119226-119141-119151 1 V 42 X 21 V 70 X 122 V 20 X 12 V 20 X
12 V 87 X 9 V 25 X 135 97 1 98 1 99 1 100 1 101 1 102 1 103 1 104 1 105 1 106 1 107 1 108 1 109 1 110 1 111
1 112 1 113 1 114 1 115 1 116 1 117 1 118 1 119 1 120 1 121 1 122 1 97 1 98 1 99 1 100 1 101 1 102 1 103 1
104 1 105 1 106 1 107 1 108 1 109 1 110 1 111 1 112 1 113 1 114 1 115 1 116 1 117 1 118 1 119 1 120 1 121 1
122 1 97 1 98 1 99 1 100 1 101 1 102 1 103 1 104 1 105 1 106 1 107 1 108 1 109 1 110 1 111 1 112 1 113 1 114
1 115 1 116 1 117 1 118 1 119 1 120 1 121 1 122 1 97 1 98 1 99 1 100 1 101 1 102 1 103 1 X 1 105 1 106 1 107
1 108 1 109 1 110 1 111 1 112 1 113 1 114 1 115 1 116 1 117 1 118 1 119 1 120 1 121 1 122 1 97 1 98 1 99 1
100 1 101 1 102 1 103 1 104 1 105 1 106 1 107 1 108 1 109 1 110 1 111 1 112 1 113 1 114 1 115 1 116 1 117 1
118 1 119 1 120 1 121 1 122 1 97 1 98 1 99 1 100 1 101 1 102 1 103 1 104 1 105 1 106 1 107 1 108 1 109 1 110
1 111 1 112 1 113 1 114 1 115 1 116 1 117 1 118 1 119 1 120 1 121 1 122 1 97 1 X 1 99 1 100 1 X 2 103 1 X 2
106 1 107 1 X 2 110 1 111 1 112 1 113 1 X 1 115 1 116 1 117 1 118 1 119 1 120 1 121 1 122 1 97 1 98 1 99 1
100 1 X 1 102 1 X 1 104 1 105 1 106 1 107 1 108 1 109 1 110 1 X 1 112 1 113 1 114 1 115 1 116 1 117 1 118 1
119 1 120 1 121 1 122 1 97 1 98 1 99 1 100 1 101 1 102 1 103 1 104 1 105 1 106 1 107 1 108 1 109 1 110 1 111
1 112 1 113 1 114 1 115 1 116 1 117 1 118 1 119 1 120 1 121 1 122 1 97 1 98 1 99 1 100 1 101 1 102 1 103 1
104 1 105 1 106 1 107 1 108 1 109 1 110 1 111 1 112 1 113 1 114 1 115 1 116 1 117 1 118 1 119 1 120 1 121 1
122 1 97 1 98 1 X 1 100 1 101 1 102 1 103 1 X 2 106 1 107 1 108 1 109 1 110 1 111 1 112 1 113 1 X 1 115 1
116 1 117 1 118 1 119 1 120 1 121 1 X 1 97 1 98 1 99 1 100 1 101 1 102 1 103 1 104 1 105 1 106 1 107 1 108 1
109 1 110 1 111 1 112 1 113 1 114 1 115 1 116 1 117 1 118 1 119 1 120 1 121 1 122 1 97 1 98 1 X 1 100 1 101
1 102 1 103 1 X 1 105 1 106 1 107 1 108 1 109 1 X 1 111 1 X 3 115 1 116 1 117 1 118 1 119 1 120 1 121 1 X 1
97 1 98 1 99 1 100 1 101 1 102 1 103 1 104 1 105 1 106 1 107 1 108 1 109 1 110 1 111 1 112 1 113 1 114 1 115
1 116 1 117 1 118 1 119 1 120 1 121 1 122 1 97 1 98 1 99 1 100 1 101 1 102 1 103 1 104 1 105 1 106 1 107 1
108 1 109 1 110 1 111 1 112 1 113 1 114 1 115 1 116 1 117 1 118 1 119 1 120 1 121 1 122 1 97 1 98 1 99 1 100
1 101 1 102 1 103 1 104 1 105 1 106 1 107 1 108 1 109 1 110 1 111 1 112 1 113 1 114 1 115 1 116 1 117 1 118
1 119 1 120 1 121 1 122 1 97 1 98 1 99 1 100 1 101 1 102 1 103 1 104 1 105 1 106 1 107 1 108 1 109 1 110 1
111 1 112 1 113 1 114 1 115 1 116 1 117 1 118 1 119 1 120 1 121 1 122 1 97 1 98 1 99 1 100 1 101 1 102 1 103
1 104 1 105 1 106 1 107 1 108 1 109 1 110 1 111 1 112 1 113 1 114 1 115 1 116 1 117 1 118 1 119 1 120 1 121
1 122 1 97 1 98 1 99 1 100 1 101 1 102 1 103 1 104 1 105 1 106 1 107 1 108 1 109 1 110 1 111 1 112 1 113 1
114 1 115 1 116 1 117 1 118 1 119 1 120 1 121 1 122 1 97 1 98 1 99 1 100 1 101 1 102 1 103 1 104 1 105 1 106
1 107 1 108 1 109 1 110 1 111 1 112 1 113 1 114 1 115 1 116 1 117 1 118 1 119 1 120 1 121 1 122 1 97 1 98 1
99 1 100 1 101 1 102 1 103 1 104 1 105 1 106 1 107 1 108 1 109 1 110 1 111 1 112 1 113 1 114 1 115 1 116 1
117 1 118 1 119 1 120 1 121 1 122 1 97 1 98 1 99 1 100 1 101 1 102 1 103 1 104 1 105 1 106 1 107 1 108 1 109
1 110 1 111 1 112 1 113 1 114 1 115 1 116 1 117 1 118 1 119 1 120 1 121 1 122 1 97 1 98 1 99 1 100 1 101 1
102 1 103 1 104 1 105 1 106 1 107 1 108 1 109 1 110 1 111 1 112 1 113 1 114 1 115 1 116 1 117 1 118 1 119 1
120 1 121 1 122 1 97 1 98 1 99 1 100 1 101 1 102 1 103 1 104 1 105 1 106 1 107 1 108 1 109 1 110 1 111 1 112
1 113 1 114 1 115 1 116 1 117 1 118 1 119 1 120 1 121 1 122 1 97 1 98 1 99 1 100 1 101 1 102 1 103 1 104 1
105 1 106 1 107 1 108 1 109 1 110 1 111 1 112 1 113 1 114 1 115 1 116 1 117 1 118 1 119 1 120 1 121 1 122 1
97 1 98 1 99 1 100 1 101 1 102 1 103 1 104 1 105 1 106 1 107 1 108 1 109 1 110 1 111 1 112 1 113 1 114 1 115
1 116 1 117 1 118 1 119 1 120 1 121 1 122 1 305 1 567 1 X 2 945 1 946 1 947 1 948 1 949 1 950 1 951 1 952 1
953 1 954 1 955 1 956 1 957 1 958 1 959 1 960 1 961 1 952 1 963 1 964 1 965 1 966 1 967 1 968 1 969 1 8711 1
945 1 946 1 947 1 948 1 949 1 950 1 951 1 952 1 953 1 954 1 955 1 956 1 957 1 958 1 959 1 960 1 961 1 963 2
964 1 965 1 966 1 967 1 968 1 969 1 8706 1 949 1 952 1 954 1 966 1 961 1 960 1 945 1 946 1 947 1 948 1 949 1
950 1 951 1 952 1 953 1 954 1 955 1 956 1 957 1 958 1 959 1 960 1 961 1 952 1 963 1 964 1 965 1 966 1 967 1
968 1 969 1 8711 1 945 1 946 1 947 1 948 1 949 1 950 1 951 1 952 1 953 1 954 1 955 1 956 1 957 1 958 1 959 1
960 1 961 1 963 2 964 1 965 1 966 1 967 1 968 1 969 1 8706 1 949 1 952 1 954 1 966 1 961 1 960 1 945 1 946 1
947 1 948 1 949 1 950 1 951 1 952 1 953 1 954 1 955 1 956 1 957 1 958 1 959 1 960 1 961 1 952 1 963 1 964 1
965 1 966 1 967 1 968 1 969 1 8711 1 945 1 946 1 947 1 948 1 949 1 950 1 951 1 952 1 953 1 954 1 955 1 956 1
957 1 958 1 959 1 960 1 961 1 963 2 964 1 965 1 966 1 967 1 968 1 969 1 8706 1 949 1 952 1 954 1 966 1 961 1
960 1 945 1 946 1 947 1 948 1 949 1 950 1 951 1 952 1 953 1 954 1 955 1 956 1 957 1 958 1 959 1 960 1 961 1
952 1 963 1 964 1 965 1 966 1 967 1 968 1 969 1 8711 1 945 1 946 1 947 1 948 1 949 1 950 1 951 1 952 1 953 1
954 1 955 1 956 1 957 1 958 1 959 1 960 1 961 1 963 2 964 1 965 1 966 1 967 1 968 1 969 1 8706 1 949 1 952 1
954 1 966 1 961 1 960 1 945 1 946 1 947 1 948 1 949 1 950 1 951 1 952 1 953 1 954 1 955 1 956 1 957 1 958 1
959 1 960 1 961 1 952 1 963 1 964 1 965 1 966 1 967 1 968 1 969 1 8711 1 945 1 946 1 947 1 948 1 949 1 950 1
951 1 952 1 953 1 954 1 955 1 956 1 957 1 958 1 959 1 960 1 961 1 963 2 964 1 965 1 966 1 967 1 968 1 969 1
8706 1 949 1 952 1 954 1 966 1 961 1 960 1 989 2 X 2 48 1 49 1 50 1 51 1 52 1 53 1 54 1 55 1 56 1 57 1 48 1
49 1 50 1 51 1 52 1 53 1 54 1 55 1 56 1 57 1 48 1 49 1 50 1 51 1 52 1 53 1 54 1 55 1 56 1 57 1 48 1 49 1 50
1 51 1 52 1 53 1 54 1 55 1 56 1 57 1 48 1 49 1 50 1 51 1 52 1 53 1 54 1 55 1 56 1 57 1 V 652 X 15 V 5 X 1 V
15 X 1104 V 31 X 6 V 6 X 213 V 7 X 1 V 17 X 2 V 7 X 1 V 2 X 1 V 5 X 5 1072 1 1073 1 1074 1 1075 1 1076 1
1077 1 1078 1 1079 1 1080 1 1082 1 1083 1 1084 1 1086 1 1087 1 1088 1 1089 1 1090 1 1091 1 1092 1 1093 1
1094 1 1095 1 1096 1 1099 1 1101 1 1102 1 42633 1 1241 1 1110 1 1112 1 1257 1 1199 1 1231 1 1072 1 1073 1
1074 1 1075 1 1076 1 1077 1 1078 1 1079 1 1080 1 1082 1 1083 1 1086 1 1087 1 1089 1 1091 1 1092 1 1093 1
1094 1 1095 1 1096 1 1098 1 1099 1 1169 1 1110 1 1109 1 1119 1 1195 1 42577 1 1201 1 X 33 V 1 X 112 V 45 X 3
V 14 X 2 V 10 X 4 V 2 X 320 V 31 X 17 V 58 X 5 V 1 X 464 V 42 X 214 V 43 X 4 V 1 X 192 V 31 X 1 V 22 X 8 V 2
X 224 V 7 X 1 V 4 X 1 V 2 X 1 V 15 X 1 V 197 X 2 V 16 X 41 125218 1 125219 1 125220 1 125221 1 125222 1
125223 1 125224 1 125225 1 125226 1 125227 1 125228 1 125229 1 125230 1 125231 1 125232 1 125233 1 125234 1
125235 1 125236 1 125237 1 125238 1 125239 1 125240 1 125241 1 125242 1 125243 1 125244 1 125245 1 125246 1
125247 1 125248 1 125249 1 125250 1 125251 1 V 42 X 4 V 10 X 4 V 2 X 785 V 68 X 76 V 61 X 194 1575 1 1576 1
1580 1 1583 1 X 1 1608 1 1586 1 1581 1 1591 1 1610 1 1603 1 1604 1 1605 1 1606 1 1587 1 1593 1 1601 1 1589 1
1602 1 1585 1 1588 1 1578 1 1579 1 1582 1 1584 1 1590 1 1592 1 1594 1 1646 1 1722 1 1697 1 1647 1 X 1 1576 1
1580 1 X 1 1607 1 X 2 1581 1 X 1 1610 1 1603 1 1604 1 1605 1 1606 1 1587 1 1593 1 1601 1 1589 1 1602 1 X 1
1588 1 1578 1 1579 1 1582 1 X 1 1590 1 X 1 1594 1 X 6 1580 1 X 4 1581 1 X 1 1610 1 X 1 1604 1 X 1 1606 1
1587 1 1593 1 X 1 1589 1 1602 1 X 1 1588 1 X 2 1582 1 X 1 1590 1 X 1 1594 1 X 1 1722 1 X 1 1647 1 X 1 1576 1
1580 1 X 1 1607 1 X 2 1581 1 1591 1 1610 1 1603 1 X 1 1605 1 1606 1 1587 1 1593 1 1601 1 1589 1 1602 1 X 1
1588 1 1578 1 1579 1 1582 1 X 1 1590 1 1592 1 1594 1 1646 1 X 1 1697 1 X 1 1575 1 1576 1 1580 1 1583 1 1607
1 1608 1 1586 1 1581 1 1591 1 1610 1 X 1 1604 1 1605 1 1606 1 1587 1 1593 1 1601 1 1589 1 1602 1 1585 1 1588
1 1578 1 1579 1 1582 1 1584 1 1590 1 1592 1 1594 1 X 5 1576 1 1580 1 1583 1 X 1 1608 1 1586 1 1581 1 1591 1
1610 1 X 1 1604 1 1605 1 1606 1 1587 1 1593 1 1601 1 1589 1 1602 1 1585 1 1588 1 1578 1 1579 1 1582 1 1584 1
1590 1 1592 1 1594 1 X 52 V 2 X 270 V 44 X 4 V 100 X 12 V 15 X 2 V 15 X 1 V 15 X 1 V 37 X 11 48-44 1 49-44 1
50-44 1 51-44 1 52-44 1 53-44 1 54-44 1 55-44 1 56-44 1 57-44 1 V 5 40-97-41 1 40-98-41 1 40-99-41 1
40-100-41 1 40-101-41 1 40-102-41 1 40-103-41 1 40-104-41 1 40-105-41 1 40-106-41 1 40-107-41 1 40-108-41 1
40-109-41 1 40-110-41 1 40-111-41 1 40-112-41 1 40-113-41 1 40-114-41 1 40-115-41 1 40-116-41 1 40-117-41 1
40-118-41 1 40-119-41 1 40-120-41 1 40-121-41 1 40-122-41 1 12308-115-12309 1 99 1 114 1 99-100 1 119-122 1
V 1 97 1 98 1 99 1 100 1 101 1 102 1 103 1 104 1 105 1 106 1 107 1 108 1 109 1 110 1 111 1 112 1 113 1 114 1
115 1 116 1 117 1 118 1 119 1 120 1 121 1 122 1 104-118 1 109-118 1 115-100 1 115-115 1 112-112-118 1 119-99
1 V 26 109-99 1 109-100 1 109-114 1 V 35 100-106 1 V 29 X 56 V 26 12411-12363 1 12467-12467 1 12469 1 X 13
25163 1 23383 1 21452 1 12487 1 20108 1 22810 1 35299 1 22825 1 20132 1 26144 1 28961 1 26009 1 21069 1
24460 1 20877 1 26032 1 21021 1 32066 1 29983 1 36009 1 22768 1 21561 1 28436 1 25237 1 25429 1 19968 1
19977 1 36938 1 24038 1 20013 1 21491 1 25351 1 36208 1 25171 1 31105 1 31354 1 21512 1 28288 1 26377 1
26376 1 30003 1 21106 1 21942 1 37197 1 X 4 12308-26412-12309 1 12308-19977-12309 1 12308-20108-12309 1
12308-23433-12309 1 12308-28857-12309 1 12308-25171-12309 1 12308-30423-12309 1 12308-21213-12309 1
12308-25943-12309 1 X 7 24471 1 21487 1 X 14 V 6 X 154 V 985 X 3 V 17 X 3 V 13 X 3 V 218 X 6 V 12 X 4 V 1 X
15 V 12 X 4 V 56 X 8 V 10 X 6 V 40 X 8 V 30 X 2 V 12 X 4 V 2 X 14 V 9 X 39 V 344 X 8 V 14 X 2 V 13 X 3 V 11
X 3 V 57 X 1 V 1 X 4 V 16 X 2 V 12 X 4 V 10 X 7 V 147 X 1 V 92 48 1 49 1 50 1 51 1 52 1 53 1 54 1 55 1 56 1
57 1 V 1 X 1029 V 42720 X 32 V 4382 X 2 V 5774 X 2 V 7473 X 15 V 622 X 2466 20029 1 20024 1 20033 1 131362 1
20320 1 20398 1 20411 1 20482 1 20602 1 20633 1 20711 1 20687 1 13470 1 132666 1 20813 1 20820 1 20836 1
20855 1 132380 1 13497 1 20839 1 20877 1 132427 1 20887 1 20900 1 20172 1 20908 1 20917 1 168415 1 20981 1
20995 1 13535 1 21051 1 21062 1 21106 1 21111 1 13589 1 21191 1 21193 1 21220 1 21242 1 21253 1 21254 1
21271 1 21321 1 21329 1 21338 1 21363 1 21373 1 21375 3 133676 1 28784 1 21450 1 21471 1 133987 1 21483 1
21489 1 21510 1 21662 1 21560 1 21576 1 21608 1 21666 1 21750 1 21776 1 21843 1 21859 1 21892 2 21913 1
21931 1 21939 1 21954 1 22294 1 22022 1 22295 1 22097 1 22132 1 20999 1 22766 1 22478 1 22516 1 22541 1
22411 1 22578 1 22577 1 22700 1 136420 1 22770 1 22775 1 22790 1 22810 1 22818 1 22882 1 136872 1 136938 1
23020 1 23067 1 23079 1 23000 1 23142 1 14062 1 14076 1 23304 1 23358 2 137672 1 23491 1 23512 1 23527 1
23539 1 138008 1 23551 1 23558 1 24403 1 23586 1 14209 1 23648 1 23662 1 23744 1 23693 1 138724 1 23875 1
138726 1 23918 1 23915 1 23932 1 24033 1 24034 1 14383 1 24061 1 24104 1 24125 1 24169 1 14434 1 139651 1
14460 1 24240 1 24243 1 24246 1 24266 1 172946 1 24318 1 140081 2 33281 1 24354 2 14535 1 144056 1 156122 1
24418 1 24427 1 14563 1 24474 1 24525 1 24535 1 24569 1 24705 1 14650 1 14620 1 24724 1 141012 1 24775 1
24904 1 24908 1 24910 1 24908 1 24954 1 24974 1 25010 1 24996 1 25007 1 25054 1 25074 1 25078 1 25104 1
25115 1 25181 1 25265 1 25300 1 25424 1 142092 1 25405 1 25340 1 25448 1 25475 1 25572 1 142321 1 25634 1
25541 1 25513 1 14894 1 25705 1 25726 1 25757 1 25719 1 14956 1 25935 1 25964 1 143370 1 26083 1 26360 1
26185 1 15129 1 26257 1 15112 1 15076 1 20882 1 20885 1 26368 1 26268 1 32941 1 17369 1 26391 1 26395 1
26401 1 26462 1 26451 1 144323 1 15177 1 26618 1 26501 1 26706 1 26757 1 144493 1 26766 1 26655 1 26900 1
15261 1 26946 1 27043 1 27114 1 27304 1 145059 1 27355 1 15384 1 27425 1 145575 1 27476 1 15438 1 27506 1
27551 1 27578 1 27579 1 146061 1 138507 1 146170 1 27726 1 146620 1 27839 1 27853 1 27751 1 27926 1 27966 1
28023 1 27969 1 28009 1 28024 1 28037 1 146718 1 27956 1 28207 1 28270 1 15667 1 28363 1 28359 1 147153 1
28153 1 28526 1 147294 1 147342 1 28614 1 28729 1 28702 1 28699 1 15766 1 28746 1 28797 1 28791 1 28845 1
132389 1 28997 1 148067 1 29084 1 148395 1 29224 1 29237 1 29264 1 149000 1 29312 1 29333 1 149301 1 149524
1 29562 1 29579 1 16044 1 29605 1 16056 2 29767 1 29788 1 29809 1 29829 1 29898 1 16155 1 29988 1 150582 1
30014 1 150674 1 30064 1 139679 1 30224 1 151457 1 151480 1 151620 1 16380 1 16392 1 30452 1 151795 1 151794
1 151833 1 151859 1 30494 1 30495 2 30538 1 16441 1 30603 1 16454 1 16534 1 152605 1 30798 1 30860 1 30924 1
16611 1 153126 1 31062 1 153242 1 153285 1 31119 1 31211 1 16687 1 31296 1 31306 1 31311 1 153980 1 154279 2
31470 1 16898 1 154539 1 31686 1 31689 1 16935 1 154752 1 31954 1 17056 1 31976 1 31971 1 32000 1 155526 1
32099 1 17153 1 32199 1 32258 1 32325 1 17204 1 156200 1 156231 1 17241 1 156377 1 32634 1 156478 1 32661 1
32762 1 32773 1 156890 1 156963 1 32864 1 157096 1 32880 1 144223 1 17365 1 32946 1 33027 1 17419 1 33086 1
23221 1 157607 1 157621 1 144275 1 144284 1 33281 1 33284 1 36766 1 17515 1 33425 1 33419 1 33437 1 21171 1
33457 1 33459 1 33469 1 33510 1 158524 1 33509 1 33565 1 33635 1 33709 1 33571 1 33725 1 33767 1 33879 1
33619 1 33738 1 33740 1 33756 1 158774 1 159083 1 158933 1 17707 1 34033 1 34035 1 34070 1 160714 1 34148 1
159532 1 17757 1 17761 1 159665 1 159954 1 17771 1 34384 1 34396 1 34407 1 34409 1 34473 1 34440 1 34574 1
34530 1 34681 1 34600 1 34667 1 34694 1 17879 1 34785 1 34817 1 17913 1 34912 1 34915 1 161383 1 35031 1
35038 1 17973 1 35066 1 13499 1 161966 1 162150 1 18110 1 18119 1 35488 1 35565 1 35722 1 35925 1 162984 1
36011 1 36033 1 36123 1 36215 1 163631 1 133124 1 36299 1 36284 1 36336 1 133342 1 36564 1 36664 1 165330 1
165357 1 37012 1 37105 1 37137 1 165678 1 37147 1 37432 1 37591 1 37592 1 37500 1 37881 1 37909 1 166906 1
38283 1 18837 1 38327 1 167287 1 18918 1 38595 1 23986 1 38691 1 168261 1 168474 1 19054 1 19062 1 38880 1
168970 1 19122 1 169110 1 38923 2 38953 1 169398 1 39138 1 19251 1 39209 1 39335 1 39362 1 39422 1 19406 1
170800 1 39698 1 40000 1 40189 1 19662 1 19693 1 40295 1 172238 1 19704 1 172293 1 172558 1 172689 1 40635 1
19798 1 40697 1 40702 1 40709 1 40719 1 40726 1 40763 1 173568 1 X 1506 V 4939 X 5 V 8490 X 707718 I 240 X
196112"

/-- What becomes of a character; none if it is refused. -/
def mapChar? (c : Char) : Option (List Char) :=
  match mappingTable.value? c.toNat with
  | some "V" => some [c]
  | some "I" => some []
  | some "X" => none
  | some codes => some ((codes.splitOn "-").map fun code => Char.ofNat (Unicode.decimal code))
  | none => none

def isKept (c : Char) : Bool := mappingTable.value? c.toNat == some "V"

end JsonSchema.Domain
